import AssetCatalog.Proofs.Unicode.Twins
import AssetCatalog.Unicode.Word

/-! Texts that differ by case letter by letter have one lower-case form, but for the form of sigma in it. -/

namespace AssetCatalog

namespace Unicode

open List (Forall₂)

/-- A cased letter is none of the characters of a list where the bits of all of them are clear. -/
theorem not_mem_of_cased {codes : List Nat} (clear : codes.all (isClear casedBits) = true) {c : Char}
    (cased : category c = .casedLetter) : c.toNat ∉ codes := by
  -- The bit of a cased letter is set.
  intro member
  have unset := List.all_eq_true.mp clear _ member
  rw [isClear_eq, testBit_casedBits, cased] at unset
  cases unset

/-- Cased letters start and continue words, have case, and are not passed over when neighbours are looked up. -/
theorem facts_of_cased {c : Char} (cased : category c = .casedLetter) :
    startsWord c = true ∧ continuesWord c = true ∧ isCased c = true ∧ isCaseIgnorable c = false := by
  -- No cased letter is among the exceptions, which are evaluated as bits.
  have words : excludedFromWords.all (isClear casedBits) = true := by decide +kernel
  have starts : excludedFromStart.all (isClear casedBits) = true := by decide +kernel
  have punctuation : wordPunctuation.all (isClear casedBits) = true := by decide +kernel
  simp [startsWord, continuesWord, isCased, isCaseIgnorable, cased, not_mem_of_cased words cased,
    not_mem_of_cased starts cased, not_mem_of_cased punctuation cased]

/-- The capital and small letters sigma are cased letters. -/
theorem category_sigma : category capitalSigma = .casedLetter ∧ category smallSigma = .casedLetter ∧
    category finalSigma = .casedLetter := by
  decide

/-- Twins that are not one character are cased letters. -/
theorem Twins.cases_cased {sigma : Prop} {c d : Char} (twins : Twins sigma c d) :
    c = d ∨ category c = .casedLetter ∧ category d = .casedLetter := by
  -- All forms of the sigma are cased letters.
  obtain ⟨capital, small, final⟩ := category_sigma
  cases twins with
  | same => exact .inl rfl
  | letters cased alsoCased => exact .inr ⟨cased, alsoCased⟩
  | sigma _ form =>
    refine .inr ⟨capital, ?_⟩
    rcases form with rfl | rfl
    · exact small
    · exact final

/-- Twins start and continue words alike, have case alike, and are passed over alike. -/
theorem Twins.facts {sigma : Prop} {c d : Char} (twins : Twins sigma c d) : startsWord c = startsWord d ∧
    continuesWord c = continuesWord d ∧ isCased c = isCased d ∧ isCaseIgnorable c = isCaseIgnorable d := by
  -- For cased letters the four facts are always the same.
  rcases twins.cases_cased with rfl | ⟨cased, alsoCased⟩
  · exact ⟨rfl, rfl, rfl, rfl⟩
  · obtain ⟨starts, continues, case, passed⟩ := facts_of_cased cased
    obtain ⟨alsoStarts, alsoContinues, alsoCase, alsoPassed⟩ := facts_of_cased alsoCased
    exact ⟨starts.trans alsoStarts.symm, continues.trans alsoContinues.symm, case.trans alsoCase.symm,
      passed.trans alsoPassed.symm⟩

/-- Texts of twins are identifiers alike. -/
theorem isIdentifier_of_twins {sigma : Prop} {first second : Text} (twins : Forall₂ (Twins sigma) first second) :
    isIdentifier first = isIdentifier second := by
  -- The first characters start words alike, and the others continue them alike.
  cases twins with
  | nil => rfl
  | cons here rest =>
    rw [isIdentifier, isIdentifier, here.facts.1]
    congr 1
    induction rest with
    | nil => rfl
    | cons next _ ih => rw [List.all_cons, List.all_cons, next.facts.2.1, ih]

/-- The nearest character with case or without it is the first one, unless that is passed over. -/
theorem nextIsCased_cons (c : Char) (rest : Text) :
    nextIsCased (c :: rest) = if isCaseIgnorable c then nextIsCased rest else isCased c := by
  -- The search drops what is passed over in front.
  cases passed : isCaseIgnorable c with
  | false => simp [nextIsCased, passed]
  | true => simp [nextIsCased, passed]

/-- Behind texts of twins, the nearest letter has case alike. -/
theorem nextIsCased_of_twins {sigma : Prop} {first second : Text} (twins : Forall₂ (Twins sigma) first second) :
    nextIsCased first = nextIsCased second := by
  -- Induction on the twins, which are passed over alike.
  induction twins with
  | nil => rfl
  | cons here _ ih =>
    obtain ⟨-, -, case, passed⟩ := here.facts
    rw [nextIsCased_cons, nextIsCased_cons, passed, case, ih]

end Unicode

namespace Text

open List (Forall₂)
open Unicode (capitalSigma smallSigma finalSigma dottedCapital lower lowerAfter lowerLetter Twins Lowered)

/-- A character, or the usual form of the small sigma in place of the one at the end of a word. -/
def usualSigma (c : Char) : Char :=
  if c = finalSigma then smallSigma else c

/-- Without the form that small sigma has at the end of a word, every character has its lower-case form by itself. -/
theorem map_usualSigma_lowerAfter (text : Text) : ∀ before : Text,
    (lowerAfter before text).map usualSigma = text.flatMap fun c => (lower c).map usualSigma := by
  have capital : (lower capitalSigma).map usualSigma = [smallSigma] := by decide
  induction text with
  | nil => exact fun _ => rfl
  | cons c rest ih =>
    intro before
    rw [lowerAfter, List.map_append, ih, List.flatMap_cons]
    -- The rest is lower-cased behind one more character, which does not matter for the usual forms.
    congr 1
    split
    -- The two small forms of a sigma are both read as the usual one.
    next isSigma =>
      obtain rfl : c = capitalSigma := Char.toNat_inj.mp isSigma
      rw [capital]
      split <;> rfl
    next => rfl

/-- Texts of twins have one lower-case form, but for the form of sigma at the end of a word. -/
theorem map_usualSigma_lowerCase_of_twins {first second : Text} (twins : Forall₂ (Twins True) first second) :
    first.lowerCase.map usualSigma = second.lowerCase.map usualSigma := by
  -- Up to the form of sigma, lower case goes letter by letter.
  rw [lowerCase, lowerCase, map_usualSigma_lowerAfter, map_usualSigma_lowerAfter]
  induction twins with
  | nil => rfl
  | @cons c d _ _ here _ ih =>
    have alike : (lower c).map usualSigma = (lower d).map usualSigma := by
      -- All forms of sigma are lower-cased to a small sigma, which is read as the usual one.
      cases here with
      | same => rfl
      | letters _ _ lowered => rw [lowered]
      | sigma _ form =>
        rcases form with rfl | rfl
        · decide
        · decide
    rw [List.flatMap_cons, List.flatMap_cons, alike, ih]

/-- Texts of twins without capital sigmas among those have one lower-case form. -/
theorem lowerCase_of_twins {first second : Text} (twins : Forall₂ (Twins False) first second) :
    first.lowerCase = second.lowerCase := by
  -- What is in front of a letter is made of twins as well, so a sigma in both ends a word in both or in none.
  have kept : ∀ {before other : Text}, Forall₂ (Twins False) before other →
      lowerAfter before first = lowerAfter other second := by
    induction twins with
    | nil => exact fun _ => rfl
    | @cons c d _ _ here rest ih =>
      intro before other front
      rw [lowerAfter, lowerAfter, ih (.cons here front), Unicode.nextIsCased_of_twins front,
        Unicode.nextIsCased_of_twins rest]
      congr 1
      cases here with
      | same => rfl
      | letters _ _ lowered capital alsoCapital =>
        have other : ∀ e : Char, e ≠ capitalSigma → ¬ e.toNat = 0x03A3 := fun e differs same =>
          differs (Char.toNat_inj.mp same)
        -- Neither of the letters is a capital sigma, so the text around them does not matter.
        rw [if_neg (other c capital), if_neg (other d alsoCapital), lowered]
      | sigma never => exact never.elim
  exact kept .nil

/-- Without a dotted capital, a text is lower-cased letter by letter. -/
theorem forall₂_lowered_lowerCase {text : Text} (dotless : dottedCapital ∉ text) :
    Forall₂ Lowered text text.lowerCase := by
  -- The text in front only decides which of two forms a sigma takes.
  have kept : ∀ before : Text, Forall₂ Lowered text (lowerAfter before text) := by
    induction text with
    | nil => exact fun _ => .nil
    | cons c rest ih =>
      obtain ⟨other, others⟩ := List.ne_and_not_mem_of_not_mem_cons dotless
      intro before
      have next := ih others (c :: before)
      rw [lowerAfter]
      split
      next isSigma =>
        obtain rfl : c = capitalSigma := Char.toNat_inj.mp isSigma
        split
        · exact .cons (.inr ⟨rfl, rfl⟩) next
        · exact .cons (.inl (by decide)) next
      next =>
        -- The one letter that is lower-cased to several characters is the dotted capital.
        have plain : ¬ c.toNat = 0x0130 := fun same => other (Char.toNat_inj.mp same).symm
        rw [lower, if_neg plain]
        exact .cons (.inl rfl) next
  exact kept []

end Text

end AssetCatalog
