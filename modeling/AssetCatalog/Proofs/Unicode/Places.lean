import AssetCatalog.Proofs.Name.Shape
import AssetCatalog.Proofs.Unicode.Twins

/-! What decomposition, composition and lower case put in the place of a character stands in words where it did. -/

set_option maxRecDepth 20000

namespace AssetCatalog.Unicode

section Bits

/-- Whether a category is one of letters or of letters used as numbers. -/
def isLetterKind : Category → Bool
  | .casedLetter | .modifierLetter | .otherLetter | .letterNumber => true
  | _ => false

/-- Whether a category is one of digits, marks or connectors, which continue words. -/
def isInnerKind : Category → Bool
  | .decimalDigit | .nonspacingMark | .spacingMark | .connector => true
  | _ => false

/-- The codes of all letters, as the bits of one number. -/
@[irreducible] def letterBits : Nat :=
  kindBits isLetterKind 0x110000 categoryRuns

/-- The codes of the characters that start words though they are no letters. -/
def addedToStart : List Nat :=
  [0x5F, 0x1885, 0x1886, 0x2118, 0x212E]

/-- The codes of the characters that start words, as the bits of one number. -/
@[irreducible] def startBits : Nat :=
  (letterBits ^^^ pageBits (excludedFromWords ++ excludedFromStart)) ||| pageBits addedToStart

/-- The codes of the characters that continue words, as the bits of one number. -/
@[irreducible] def innerBits : Nat :=
  (letterBits ^^^ pageBits excludedFromWords) ||| (kindBits isInnerKind 0x110000 categoryRuns ||| pageBits addedToWords)

/-- The codes of the Hangul jamo and of the Hangul syllables, as the bits of one number. -/
@[irreducible] def hangulBits : Nat :=
  runBits 0x1100 0x100 ||| runBits 0xAC00 11172

/-- Whether the bit of a code is set. -/
def isSet (bits code : Nat) : Bool :=
  -- The mask is as long as the code asks for, and so is what a kernel keeps of a long number.
  !Nat.beq (1 <<< code &&& bits) 0

/-- Whether all fields of a row continue words, and the first one starts them if that is wanted. -/
noncomputable def keepsFields (opens : Bool) (count : Nat) : Nat → Bool :=
  -- The fields are cut off from the last to the first. A kernel evaluates recursors without detours.
  count.rec (fun _ => false) fun _ further row =>
    (isSet innerBits (row % 0x100000)).rec false
      ((Nat.beq (row / 0x100000) 0).rec (further (row / 0x100000))
        (opens.rec true (isSet startBits (row % 0x100000))))

/-- Whether the codes of a row are in words what another code is, if that one stands in words at all. -/
noncomputable def keepsPlace (code row : Nat) : Bool :=
  (isSet innerBits code).rec true (keepsFields (isSet startBits code) 20 row)

/--
What the tables say of the characters of words, evaluated at once so that their bits are put together once.

The characters that are left out of words are letters, and those that are added are none.
Hangul characters start words, and what starts words is neither a mark nor the second character of a pair.
What the tables put in the place of a character is in words what the character is: this is so for decompositions, for
the first characters of pairs, and for letters with lower-case forms.
-/
theorem checked_tables :
    (((excludedFromWords ++ excludedFromStart).all (isSet letterBits)) = true ∧
      ((addedToStart ++ addedToWords).all fun code => !isSet letterBits code) = true) ∧
    (hangulBits &&& startBits = hangulBits ∧ startBits &&& joiningBits = 0) ∧
    (decompositionPages.all fun page => page.2.all fun row => keepsPlace (row % 0x100000) (row / 0x100000)) = true ∧
    (compositionRows.all fun row => keepsPlace (row / 0x10000000000) (row % 0x100000)) = true ∧
    (lowerRuns.all fun run => run.places.all fun place =>
      isListed (run.image + place) && keepsPlace (run.first + place) (run.image + place)) = true := by
  decide +kernel

/-- The mask meets the bit exactly if it is set. -/
theorem isSet_eq (bits code : Nat) : isSet bits code = bits.testBit code := by
  -- Masked with a single bit, the others of the number are clear.
  have mask (place : Nat) : (1 <<< code &&& bits).testBit place = (decide (code = place) && bits.testBit place) := by
    rw [Nat.testBit_and, Nat.one_shiftLeft, Nat.testBit_two_pow]
  rw [isSet]
  cases set : bits.testBit code with
  | true =>
    have filled : Nat.beq (1 <<< code &&& bits) 0 = false := by
      refine Bool.eq_false_iff.mpr fun empty => ?_
      have met := mask code
      rw [Nat.eq_of_beq_eq_true empty, Nat.zero_testBit, set, decide_eq_true rfl] at met
      cases met
    rw [filled, Bool.not_false]
  | false =>
    -- No bit of the masked number is set, be it at the place or elsewhere.
    have empty : 1 <<< code &&& bits = 0 := by
      refine Nat.eq_of_testBit_eq fun place => ?_
      rw [mask, Nat.zero_testBit]
      by_cases same : code = place
      · rw [← same, set, Bool.and_false]
      · rw [decide_eq_false same, Bool.false_and]
    rw [empty]
    rfl

/-- The bits of some codes are set at these, if they are small. -/
theorem testBit_pageBits_eq {codes : List Nat} (small : codes.all (· < 0x100000) = true) (code : Nat) :
    (pageBits codes).testBit code = codes.contains code := by
  -- The bits are of codes by their low field, which is all there is of a small code.
  rw [testBit_pageBits, Bool.eq_iff_iff, List.any_eq_true, List.contains_iff_mem]
  have fits := fun other member => of_decide_eq_true (List.all_eq_true.mp small other member)
  constructor
  · rintro ⟨other, member, same⟩
    rw [Nat.mod_eq_of_lt (fits other member)] at same
    exact eq_of_beq same ▸ member
  · intro member
    exact ⟨code, member, by rw [Nat.mod_eq_of_lt (fits code member), beq_self_eq_true]⟩

/-- The bit of a character tells whether it is a letter. -/
theorem testBit_letterBits (c : Char) : letterBits.testBit c.toNat = isLetterKind (category c) := by
  rw [letterBits, testBit_kindBits_category]

/-- Some letters are left out, and other characters added. -/
theorem xor_or_eq {letter excluded added : Bool} (within : excluded = true → letter = true)
    (apart : added = true → letter = false) :
    ((letter ^^ excluded) || added) = if letter then !excluded else added := by
  cases letter <;> cases excluded <;> cases added <;> simp_all

/-- A letter that is left out of some words is a letter, and an added character is none. -/
theorem letter_facts (c : Char) :
    ((excludedFromWords ++ excludedFromStart).contains c.toNat = true → isLetterKind (category c) = true) ∧
      ((addedToStart ++ addedToWords).contains c.toNat = true → isLetterKind (category c) = false) := by
  -- Both halves were checked for all codes of the lists.
  obtain ⟨⟨letters, others⟩, -⟩ := checked_tables
  rw [← testBit_letterBits, ← isSet_eq]
  constructor
  · exact fun member => List.all_eq_true.mp letters _ (List.contains_iff_mem.mp member)
  · intro member
    simpa using List.all_eq_true.mp others _ (List.contains_iff_mem.mp member)

/-- The bit of a character tells whether it starts words. -/
theorem testBit_startBits (c : Char) : startBits.testBit c.toNat = startsWord c := by
  -- The bits of letters lose those left out and gain those added, by two operations that do not meet.
  obtain ⟨within, apart⟩ := letter_facts c
  rw [startBits, Nat.testBit_or, Nat.testBit_xor, testBit_letterBits, testBit_pageBits_eq (by decide),
    testBit_pageBits_eq (by decide), xor_or_eq within fun added => apart (by simp_all)]
  have underscore : (c == '_') = decide (c.toNat = 0x5F) := by
    rw [Bool.eq_iff_iff, beq_iff_eq, decide_eq_true_iff]
    exact Char.toNat_inj.symm
  unfold startsWord
  -- One case for each category remains.
  cases category c <;> simp [isLetterKind, addedToStart, underscore]

/-- The bit of a character tells whether it continues words. -/
theorem testBit_innerBits (c : Char) : innerBits.testBit c.toNat = continuesWord c := by
  obtain ⟨within, apart⟩ := letter_facts c
  -- A kind that only continues words is no kind of letter, and what is added to words is none either.
  have others : (isInnerKind (category c) || addedToWords.contains c.toNat) = true →
      isLetterKind (category c) = false := by
    intro inner
    rcases Bool.or_eq_true _ _ ▸ inner with kind | added
    · revert kind
      cases category c <;> decide
    · exact apart (by simp_all)
  -- The bits are those of the categories, corrected by what is left out and what is added.
  rw [innerBits, Nat.testBit_or, Nat.testBit_or, Nat.testBit_xor, testBit_letterBits, testBit_kindBits_category,
    testBit_pageBits_eq (by decide), testBit_pageBits_eq (by decide),
    xor_or_eq (fun excluded => within (by simp_all)) others]
  unfold continuesWord
  cases category c <;> simp [isLetterKind, isInnerKind]

end Bits

section Tables

/-- What a character decomposes into is in words what the character is. -/
theorem IsRow.keepsPlace {row : Nat} (listed : IsRow row) :
    keepsPlace (row % 0x100000) (row / 0x100000) = true := by
  -- The tables were checked as a whole, row by row.
  obtain ⟨-, -, checked, -⟩ := checked_tables
  exact listed.of_all checked

/-- What a pair makes is in words what its first character is. -/
theorem keepsPlace_composition {row : Nat} (member : row ∈ compositionRows) :
    keepsPlace (row / 0x10000000000) (row % 0x100000) = true := by
  -- The tables were checked as a whole, row by row.
  obtain ⟨-, -, -, checked, -⟩ := checked_tables
  exact List.all_eq_true.mp checked row member

/-- The lower-case form of a letter is in words what the letter is. -/
theorem keepsPlace_lower {run : CaseRun} (known : run ∈ lowerRuns) {place : Nat} (member : place ∈ run.places) :
    isListed (run.image + place) = true ∧ keepsPlace (run.first + place) (run.image + place) = true := by
  -- The tables were checked as a whole, run by run and letter by letter.
  obtain ⟨-, -, -, -, checked⟩ := checked_tables
  exact Bool.and_eq_true_iff.mp (List.all_eq_true.mp (List.all_eq_true.mp checked run known) place member)

/-- The codes of a row of which all fields continue words. -/
theorem exists_of_keepsFields {opens : Bool} {count row : Nat} (keeps : keepsFields opens count row = true)
    {codes : List Nat} (inner : ∀ code ∈ codes, isSet innerBits code = true) :
    ∃ first rest, rowCodes.go count row codes = first :: rest ∧ (opens = true → isSet startBits first = true) ∧
      ∀ code ∈ first :: rest, isSet innerBits code = true := by
  induction count generalizing row codes with
  | zero => cases keeps
  | succ count ih =>
    have step : keepsFields opens (count + 1) row = (isSet innerBits (row % 0x100000)).rec false
        ((Nat.beq (row / 0x100000) 0).rec (keepsFields opens count (row / 0x100000))
          (opens.rec true (isSet startBits (row % 0x100000)))) := rfl
    rw [step] at keeps
    cases here : isSet innerBits (row % 0x100000) with
    | false =>
      rw [here] at keeps
      cases keeps
    | true =>
      rw [here] at keeps
      -- A zero is a control character, which continues no word, so there is a field left.
      have nonzero : row ≠ 0 := by
        rintro rfl
        have control := le_toNat_of_continuesWord (c := Char.ofNat 0) (by rwa [← testBit_innerBits, ← isSet_eq])
        exact absurd control (by decide)
      have all : ∀ code ∈ row % 0x100000 :: codes, isSet innerBits code = true :=
        List.forall_mem_cons.mpr ⟨here, inner⟩
      rw [rowCodes.go, if_neg nonzero]
      cases last : Nat.beq (row / 0x100000) 0 with
      | false =>
        rw [last] at keeps
        exact ih keeps all
      | true =>
        rw [last] at keeps
        rw [Nat.eq_of_beq_eq_true last]
        have ended : rowCodes.go count 0 (row % 0x100000 :: codes) = row % 0x100000 :: codes := by
          cases count <;> rfl
        -- The last field read is the first code of the row, so it is the one to start the word.
        refine ⟨row % 0x100000, codes, ended, fun wanted => ?_, all⟩
        rw [wanted] at keeps
        exact keeps

end Tables

/-- A text takes the place of a character in a word: it continues the word if the character does, and it has a first
character that starts the word if the character does. -/
structure Replaces (c : Char) (text : Text) : Prop where
  /-- The first character starts a word. -/
  starts : startsWord c = true → ∃ first rest, text = first :: rest ∧ startsWord first = true
  /-- All characters continue a word. -/
  continues : continuesWord c = true → ∀ d ∈ text, continuesWord d = true

/-- A character takes its own place. -/
theorem replaces_self (c : Char) : Replaces c [c] :=
  ⟨fun starts => ⟨c, [], rfl, starts⟩, fun continues => List.forall_mem_singleton.mpr continues⟩

/-- A character that starts words takes the place of every other one. -/
theorem replaces_of_startsWord {d : Char} (starts : startsWord d = true) (c : Char) : Replaces c [d] :=
  ⟨fun _ => ⟨d, [], rfl, starts⟩, fun _ => List.forall_mem_singleton.mpr (continuesWord_of_startsWord starts)⟩

/-- What takes the place of a character that takes the place of another one takes that place as well. -/
theorem Replaces.trans {c d : Char} {text : Text} (first : Replaces c [d]) (second : Replaces d text) :
    Replaces c text := by
  -- Both ways to count for words are handed on from one character to the next.
  constructor
  · intro starts
    obtain ⟨_, _, ⟨rfl, rfl⟩, alsoStarts⟩ := first.starts starts
    exact second.starts alsoStarts
  · exact fun continues => second.continues (first.continues continues d (List.mem_singleton_self d))

/-- The characters of a row take the place of another one if the tables say so of their codes. -/
theorem replaces_of_keepsPlace {c : Char} {row : Nat} (keeps : keepsPlace c.toNat row = true)
    (valid : ∀ image ∈ rowCodes row, (Char.ofNat image).toNat = image) :
    Replaces c ((rowCodes row).map Char.ofNat) := by
  unfold keepsPlace at keeps
  rw [isSet_eq, isSet_eq, testBit_innerBits, testBit_startBits] at keeps
  cases inside : continuesWord c with
  | false =>
    -- What starts no word and continues none keeps its place anyway.
    refine ⟨fun starts => absurd (continuesWord_of_startsWord starts) ?_, fun continues => absurd continues ?_⟩
    · simp [inside]
    · simp [inside]
  | true =>
    rw [inside] at keeps
    -- The row has a first code, and the tables say of it and the others what is needed.
    obtain ⟨first, rest, codes, opens, inner⟩ := exists_of_keepsFields keeps (List.forall_mem_nil _)
    change rowCodes row = first :: rest at codes
    rw [codes] at valid ⊢
    constructor
    · intro starts
      refine ⟨Char.ofNat first, rest.map Char.ofNat, rfl, ?_⟩
      rw [← testBit_startBits, valid first List.mem_cons_self, ← isSet_eq]
      exact opens starts
    · rintro - d member
      obtain ⟨image, known, rfl⟩ := List.mem_map.mp member
      rw [← testBit_innerBits, valid image known, ← isSet_eq]
      exact inner image known

/-- A character takes the place of another one if the tables say so of its code. -/
theorem replaces_of_isListed {c : Char} {image : Nat} (listed : isListed image = true)
    (keeps : keepsPlace c.toNat image = true) : Replaces c [Char.ofNat image] := by
  -- The text of one code is a row of one field.
  obtain ⟨positive, -, small⟩ := isListed_iff.mp listed
  have alone := rowCodes_single positive small
  have replaces := replaces_of_keepsPlace keeps (by
    rw [alone]
    exact List.forall_mem_singleton.mpr (toNat_ofNat_of_isListed listed))
  rwa [alone] at replaces

/-- A Hangul jamo starts words, and so does a Hangul syllable. -/
theorem startsWord_of_hangul {code : Nat}
    (hangul : 0x1100 ≤ code ∧ code < 0x1200 ∨ 0xAC00 ≤ code ∧ code < 0xAC00 + 11172) :
    startsWord (Char.ofNat code) = true := by
  -- The bits of Hangul were checked to lie within those of the characters that start words.
  obtain ⟨-, ⟨whole, -⟩, -⟩ := checked_tables
  have known : hangulBits.testBit code = true := by
    rw [hangulBits, Nat.testBit_or, testBit_runBits, testBit_runBits, Bool.or_eq_true, decide_eq_true_iff,
      decide_eq_true_iff]
    omega
  have set := congrArg (Nat.testBit · code) whole
  rw [Nat.testBit_and, known, Bool.true_and] at set
  rw [← testBit_startBits, toNat_ofNat (by omega) (by omega)]
  exact set

/-- A character that starts words is a starter. -/
theorem combiningClass_of_startsWord {c : Char} (starts : startsWord c = true) : combiningClass c = 0 := by
  -- No character that starts words was found among the marks, which was checked bit by bit.
  obtain ⟨-, ⟨-, disjoint⟩, -⟩ := checked_tables
  have apart := congrArg (Nat.testBit · c.toNat) disjoint
  rw [Nat.testBit_and, testBit_startBits, starts, Bool.true_and, Nat.zero_testBit] at apart
  exact (follows_of_isClear (by rw [isClear_eq, apart]; rfl)).starts

/-- What a syllable decomposes into are jamo, which start words. -/
theorem startsWord_of_mem_hangulParts {place code : Nat} (small : place < 11172) (member : code ∈ hangulParts place) :
    startsWord (Char.ofNat code) = true :=
  startsWord_of_hangul (.inl (mem_hangulParts small member))

/-- What a character decomposes into takes its place in words. -/
theorem replaces_decompose (c : Char) : Replaces c (decompose c) := by
  obtain ⟨place, small, -, parts⟩ | plain | ⟨row, listed, own, parts⟩ := decompose_cases c
  · -- All parts of a syllable start words.
    obtain ⟨rest, first⟩ := exists_hangulParts place
    rw [parts]
    constructor
    · intro _
      rw [first]
      exact ⟨_, _, rfl, startsWord_of_mem_hangulParts small (first ▸ List.mem_cons_self)⟩
    · rintro - d member
      obtain ⟨code, known, rfl⟩ := List.mem_map.mp member
      exact continuesWord_of_startsWord (startsWord_of_mem_hangulParts small known)
  · -- A character that does not decompose takes its own place.
    rw [plain]
    exact replaces_self c
  · rw [parts]
    exact replaces_of_keepsPlace (own ▸ listed.keepsPlace) fun code member => listed.toNat_ofNat member

/-- What a pair makes takes the place of the first character of the pair. -/
theorem replaces_of_compose? {first second joined : Char} (composed : compose? first second = some joined) :
    Replaces first [joined] := by
  -- What two jamo make, or a syllable and a jamo, is a syllable.
  have syllable {code : Nat} (hangul : 0xAC00 ≤ code ∧ code < 0xAC00 + 11172) : Replaces first [Char.ofNat code] :=
    replaces_of_startsWord (startsWord_of_hangul (.inr hangul)) first
  unfold compose? at composed
  dsimp only at composed
  split at composed
  · rw [← Option.some.inj composed]
    exact syllable (by omega)
  · split at composed
    · rw [← Option.some.inj composed]
      exact syllable (by omega)
    · -- Any other pair is in the table, the rows of which keep the place of their first character.
      obtain ⟨code, found, rfl⟩ := Option.map_eq_some_iff.mp composed
      obtain ⟨row, member, isFirst, -, rfl⟩ := mem_of_composition? found
      have keeps := keepsPlace_composition member
      exact replaces_of_isListed (undone_of_mem member).2.1 (isFirst ▸ keeps)

/-- The lower-case form of a letter takes its place. -/
theorem replaces_lowerLetter (c : Char) : Replaces c [lowerLetter c] := by
  -- The letter is in no run and stays, or is in one whose images were checked.
  rcases mapByRuns_eq_or lowerRuns c.toNat with same | ⟨run, member, mapped⟩
  · rw [lowerLetter, same, Char.ofNat_toNat]
    exact replaces_self c
  · obtain ⟨place, known, code, image⟩ := CaseRun.exists_place mapped
    obtain ⟨listed, keeps⟩ := keepsPlace_lower member known
    rw [← image] at listed keeps
    exact replaces_of_isListed listed (code ▸ keeps)

end AssetCatalog.Unicode
