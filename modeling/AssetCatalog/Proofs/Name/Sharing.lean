import AssetCatalog.Proofs.Name.Normal
import AssetCatalog.Proofs.Name.Underscore
import AssetCatalog.Proofs.Unicode.LowerCase

/-! Names that share a key have identifiers that differ by case, but for the underscore behind a reserved word. -/

set_option maxRecDepth 20000

namespace AssetCatalog

/-- Texts that agree on where a mark stands are cut at one place. -/
theorem Text.rel_cutLast? {alike : Char → Char → Prop} {mark : Char}
    (marks : ∀ c d, alike c d → (c = mark ↔ d = mark)) {first second : Text} (pairs : List.Forall₂ alike first second) :
    Option.Rel (fun cut other => List.Forall₂ alike cut.1 other.1 ∧ List.Forall₂ alike cut.2 other.2)
      (Text.cutLast? mark first) (Text.cutLast? mark second) := by
  -- The last mark is sought from the right, so the recursion comes first.
  induction pairs with
  | nil => exact .none
  | @cons c d first second here rest ih =>
    rw [Text.cutLast?, Text.cutLast?]
    revert ih
    generalize Text.cutLast? mark first = cut
    generalize Text.cutLast? mark second = other
    rintro (⟨before, after⟩ | -)
    · exact .some ⟨.cons here before, after⟩
    · -- Without a mark farther right, the characters at hand decide.
      dsimp only
      by_cases isMark : c = mark
      · rw [if_pos isMark, if_pos ((marks c d here).mp isMark)]
        exact .some ⟨.nil, rest⟩
      · rw [if_neg isMark, if_neg (mt (marks c d here).mpr isMark)]
        exact .none

/-- A text that is cut is made of both parts and the mark between them. -/
theorem Text.eq_of_cutLast? {mark : Char} {text before after : Text}
    (cut : Text.cutLast? mark text = some (before, after)) : text = before ++ mark :: after := by
  -- The cut is that of the rest, with one more character in front, or it is right here.
  induction text generalizing before with
  | nil => cases cut
  | cons c rest ih =>
    rw [Text.cutLast?] at cut
    split at cut
    next found =>
      cases cut
      rw [ih found, List.cons_append]
    next =>
      split at cut
      next isMark =>
        cases cut
        -- The rest has no mark, so it is all that is behind this one.
        rw [isMark, List.nil_append]
      next => cases cut

namespace Name

open List (Forall₂)
open Unicode (capitalSigma finalSigma lunateSigma dottedCapital Lowered Paired Twins Behind upperLetter lowerLetter
  continuesWord isIdentifier nfkc)

section Letters

variable {c d : Char}

/-- A capital is the upper-case form of a character that has one of one character. -/
theorem capital_eq (c : Char) : capital c = upperLetter c := by
  -- Characters with longer upper-case forms are in no run.
  have longer : ∀ entry ∈ Unicode.upperExpansions, entry.2.length ≠ 1 ∧
      Unicode.isClear Unicode.upperBits entry.1 = true := by decide +kernel
  rw [capital, Unicode.upper]
  cases found : Unicode.upperExpansions.lookup c.toNat with
  | none => rfl
  | some codes =>
    obtain ⟨before, after, split, -⟩ := List.lookup_eq_some_iff.mp found
    obtain ⟨length, clear⟩ := longer (c.toNat, codes) (split ▸ by simp)
    rw [Unicode.upperBits] at clear
    rw [upperLetter, Unicode.mapByRuns_of_isClear clear, Char.ofNat_toNat]
    dsimp only
    split
    next single =>
      -- A form of one character would have an entry of one code.
      have one := congrArg List.length single
      rw [List.length_map] at one
      exact absurd one length
    next => rfl

/-- A character is a sign in front of the small letters exactly where its lower-case form is that sign. -/
theorem lowerLetter_beq (sign : Char) (visible : sign.toNat ≠ 0) (low : sign.toNat ≤ 0x5F)
    (fixed : lowerLetter sign = sign) : (lowerLetter c == sign) = (c == sign) := by
  -- From the lower-case form back: the signs in front of the small letters have no other origin.
  rw [Bool.eq_iff_iff, beq_iff_eq, beq_iff_eq]
  exact ⟨Unicode.eq_of_lowerLetter visible low, fun same => same ▸ fixed⟩

/-- A character separates words exactly where its lower-case forms do. -/
theorem isSeparator_of_lowered (lowered : Lowered c d) : isSeparator d = isSeparator c := by
  -- None of the four separators is a lower-case form of any other character.
  rcases lowered with rfl | ⟨rfl, rfl⟩
  · rw [isSeparator, isSeparator, lowerLetter_beq '.' (by decide) (by decide) (by decide),
      lowerLetter_beq '-' (by decide) (by decide) (by decide), lowerLetter_beq '_' (by decide) (by decide) (by decide),
      lowerLetter_beq ' ' (by decide) (by decide) (by decide)]
  · decide

/-- A character is a dot exactly where its lower-case forms are. -/
theorem dot_of_lowered (lowered : Lowered c d) : c = '.' ↔ d = '.' := by
  -- A dot is the lower-case form of itself alone, and no sigma is a dot.
  rcases lowered with rfl | ⟨rfl, rfl⟩
  · have same : (lowerLetter c == '.') = (c == '.') := lowerLetter_beq '.' (by decide) (by decide) (by decide)
    rw [← beq_iff_eq, ← same, beq_iff_eq]
  · exact ⟨fun same => absurd same (by decide), fun same => absurd same (by decide)⟩

end Letters

section Words

variable {first second text : Text} {sigma : Prop}

/-- The name without its extension is lower-cased with the whole name. -/
theorem forall₂_withoutExtension (lowered : Forall₂ Lowered first second) :
    Forall₂ Lowered (withoutExtension first) (withoutExtension second) := by
  -- Both names have their last dot at one place, or neither has one.
  have cuts := Text.rel_cutLast? (fun _ _ => dot_of_lowered) lowered
  rw [withoutExtension, withoutExtension]
  revert cuts
  generalize Text.cutLast? '.' first = cut
  generalize Text.cutLast? '.' second = other
  intro cuts
  cases cuts with
  | none => exact lowered
  | @some cut other parts =>
    obtain ⟨before, behind⟩ := cut
    obtain ⟨alsoBefore, alsoBehind⟩ := other
    -- A dot at the front starts no extension, and it stands at the front of both or of none.
    cases parts.1 with
    | nil => exact lowered
    | cons here rest => exact .cons here rest

/-- The name without its extension begins the whole name. -/
theorem withoutExtension_isPrefix (fileName : Text) : withoutExtension fileName <+: fileName := by
  -- The name is cut at its last dot, or kept.
  rw [withoutExtension]
  split
  next cut => exact ⟨_, (Text.eq_of_cutLast? cut).symm⟩
  next => exact List.prefix_rfl

/-- The words of a name and of its lower-case form are paired letter by letter. -/
theorem forall₂_joinWords (lowered : Forall₂ Lowered first second) (dotless : dottedCapital ∉ first)
    (allowed : ∀ c ∈ first, c = capitalSigma ∨ c = lunateSigma → sigma) : ∀ start : Bool,
      Forall₂ (Paired sigma) (joinWords start first) (joinWords start second) := by
  -- Both scans are at the start of a word together, as separators have separators for lower-case forms.
  induction lowered with
  | nil => exact fun _ => .nil
  | @cons c d _ _ here rest ih =>
    obtain ⟨other, others⟩ := List.ne_and_not_mem_of_not_mem_cons dotless
    have later := ih others (List.forall_mem_of_forall_mem_cons allowed)
    intro start
    rw [joinWords, joinWords, isSeparator_of_lowered here]
    split
    · exact later true
    · -- Of a letter and its lower-case form either both are kept or none.
      have kept : isKept d = isKept c := Unicode.word_of_lowered here
      rw [kept]
      split
      next word =>
        obtain ⟨small, capitals⟩ := Unicode.paired_of_lowered word (Ne.symm other) (allowed c List.mem_cons_self) here
        refine .cons ?_ (later false)
        cases start with
        | false => exact small
        | true =>
          rw [if_pos rfl, if_pos rfl, capital_eq, capital_eq]
          exact capitals
      next => exact later start

/-- The characters of joined words may come behind any letter. -/
theorem behind_of_mem_joinWords {start : Bool} {c : Char} (member : c ∈ joinWords start text) : Behind c := by
  -- Of a name its letters and digits are kept, or exchanged for their capitals.
  obtain ⟨kept, word, rfl | rfl⟩ := exists_kept_of_mem_joinWords member
  · exact Unicode.behind_of_word word
  · rw [capital_eq]
    exact Unicode.behind_of_word (Unicode.word_upperLetter word)

/-- The normal forms of words that are paired letter by letter are twins letter by letter. -/
theorem twins_nfkc_joinWords {start : Bool}
    (paired : Forall₂ (Paired sigma) (joinWords start first) (joinWords start second)) :
    Forall₂ (Twins sigma) (nfkc (joinWords start first)) (nfkc (joinWords start second)) :=
  Unicode.forall₂_nfkc .same paired (fun _ => behind_of_mem_joinWords) fun _ => behind_of_mem_joinWords

end Words

/-- The legal characters of a name, behind an underscore where they are no identifier by themselves. -/
def rescued (name : Text) : Text :=
  if isIdentifier (legalCharacters name) then legalCharacters name else '_' :: legalCharacters name

/-- An identifier without the underscore that is behind a reserved word. -/
def unreserved (name : Text) : Text :=
  if isKeyword name.dropLast && name.getLast? == some '_' then name.dropLast else name

section Finishing

variable {name first second : Text} {sigma : Prop}

/-- What is made of words without underscores is a rescued name, once the underscore behind a reserved word is gone. -/
theorem unreserved_finish (free : '_' ∉ nfkc name) : unreserved (finish name) = rescued name := by
  have shown : finish name = if isKeyword (rescued name) then rescued name ++ ['_'] else rescued name := rfl
  rw [shown, unreserved]
  cases reserved : isKeyword (rescued name) with
  | true => simp [reserved]
  | false =>
    -- An underscore at the end would be the one in front, and nothing would be left without it.
    rw [if_neg Bool.false_ne_true]
    refine if_neg fun ending => ?_
    rw [Bool.and_eq_true, beq_iff_eq] at ending
    have legal : '_' ∉ legalCharacters name := fun member => free (List.mem_of_mem_filter member)
    obtain ⟨word, last⟩ := ending
    rw [rescued] at word last
    split at last
    · exact legal (List.mem_of_mem_getLast? last)
    next other =>
      -- The name is the underscore that was put in front and the letters behind it.
      cases letters : legalCharacters name with
      | nil =>
        rw [if_neg other, letters] at word
        exact absurd word (by decide)
      | cons c rest =>
        rw [letters, List.getLast?_cons_cons] at last
        exact legal (letters ▸ List.mem_of_mem_getLast? last)

/-- Rescued names are twins where the normal forms of the names are. -/
theorem twins_rescued (twins : Forall₂ (Twins sigma) (nfkc first) (nfkc second)) :
    Forall₂ (Twins sigma) (rescued first) (rescued second) := by
  -- Twins are legal together, and with an underscore in front where what is left is no identifier.
  have legal : Forall₂ (Twins sigma) (legalCharacters first) (legalCharacters second) :=
    List.rel_filter (fun _ _ here => Bool.eq_iff_iff.mp here.facts.2.1) twins
  rw [rescued, rescued, Unicode.isIdentifier_of_twins legal]
  split
  · exact legal
  · exact .cons (.same '_') legal

/-- The identifier of a name and its key are twins letter by letter, without the underscores behind reserved words. -/
theorem twins_unreserved {text : Text} (dotless : dottedCapital ∉ text)
    (allowed : ∀ c ∈ text, c = capitalSigma ∨ c = lunateSigma → sigma) (stripExtension : Bool) :
    Forall₂ (Twins sigma) (unreserved (ofText text stripExtension)) (unreserved (siblingKey text stripExtension)) := by
  -- Name and key come from the text and its lower-case form, which are paired letter by letter.
  have lowered := Text.forall₂_lowered_lowerCase dotless
  rw [siblingKey, ofText, ofText, unreserved_finish (underscore_not_mem_nfkc_joinWords true _),
    unreserved_finish (underscore_not_mem_nfkc_joinWords true _)]
  refine twins_rescued (twins_nfkc_joinWords ?_)
  cases stripExtension with
  | false => exact forall₂_joinWords lowered dotless allowed true
  | true =>
    have part := (withoutExtension_isPrefix text).subset
    exact forall₂_joinWords (forall₂_withoutExtension lowered) (fun dotted => dotless (part dotted))
      (fun c member => allowed c (part member)) true

end Finishing

/--
What the identifiers of names with one key have in common.

They are equal in lower case, without the underscores behind reserved words and with the small sigma in one form.
Where the names have no capital sigma, they are so with the small sigma as it is.
A dotted capital is left out, since its lower-case form is longer than it is.
-/
theorem lowerCase_of_siblingKey_eq {first second : Text} {strip alsoStrip : Bool}
    (dotless : dottedCapital ∉ first) (alsoDotless : dottedCapital ∉ second)
    (same : siblingKey first strip = siblingKey second alsoStrip) :
    (unreserved (ofText first strip)).lowerCase.map Text.usualSigma =
        (unreserved (ofText second alsoStrip)).lowerCase.map Text.usualSigma ∧
      ((∀ c ∈ first ++ second, c ≠ capitalSigma ∧ c ≠ lunateSigma) →
        (unreserved (ofText first strip)).lowerCase = (unreserved (ofText second alsoStrip)).lowerCase) := by
  constructor
  · -- Both identifiers are twins of their key, and the keys are one.
    have one := Text.map_usualSigma_lowerCase_of_twins (twins_unreserved dotless (fun _ _ _ => trivial) strip)
    have other := Text.map_usualSigma_lowerCase_of_twins (twins_unreserved alsoDotless (fun _ _ _ => trivial) alsoStrip)
    rw [one, same, other]
  · intro plain
    obtain ⟨here, there⟩ := List.forall_mem_append.mp plain
    have one := Text.lowerCase_of_twins (twins_unreserved dotless
      (fun c member => Or.rec (here c member).1 (here c member).2) strip)
    have other := Text.lowerCase_of_twins (twins_unreserved alsoDotless
      (fun c member => Or.rec (there c member).1 (there c member).2) alsoStrip)
    rw [one, same, other]

/-- Two names that differ by the case of accented letters have one key, and identifiers that differ by it alone. -/
theorem lowerCase_of_siblingKey_eq_accented :
    let first := [Char.ofNat 0x00C9, 'C', 'L', 'A', 'I', 'R', '.', 'p', 'n', 'g']
    let second := [Char.ofNat 0x00E9, 'c', 'l', 'a', 'i', 'r', '.', 's', 'v', 'g']
    siblingKey first true = siblingKey second true ∧ ofText first true ≠ ofText second true ∧
      (unreserved (ofText first true)).lowerCase = (unreserved (ofText second true)).lowerCase := by
  -- Neither name has a sigma, for which alone the law makes an exception.
  intro first second
  have same : siblingKey first true = siblingKey second true := by decide +kernel
  have sigmaless : ((first ++ second).all fun c => c != capitalSigma && c != lunateSigma) = true := by decide
  refine ⟨same, by decide +kernel, (lowerCase_of_siblingKey_eq (by decide) (by decide) same).2 fun c member => ?_⟩
  simpa using List.all_eq_true.mp sigmaless c member

/--
Names with one key may have identifiers that are not equal in lower case.

A reserved word in small letters gets an underscore, and one in capitals does not.
A capital sigma at the end of a word is lower-cased to its final form before the words are joined.
The dot of a dotted capital is dropped from the key.
-/
theorem not_lowerCase_of_siblingKey_eq :
    (siblingKey "NONE" false = siblingKey "none" false ∧
      (ofText "NONE" false).lowerCase ≠ (ofText "none" false).lowerCase) ∧
    (siblingKey ['a', capitalSigma, ' ', 'b'] false = siblingKey ['a', finalSigma, ' ', 'b'] false ∧
      (ofText ['a', capitalSigma, ' ', 'b'] false).lowerCase ≠ (ofText ['a', finalSigma, ' ', 'b'] false).lowerCase) ∧
    (siblingKey [dottedCapital] false = siblingKey "i" false ∧
      (ofText [dottedCapital] false).lowerCase ≠ (ofText "i" false).lowerCase) := by
  decide +kernel

end Name

end AssetCatalog
