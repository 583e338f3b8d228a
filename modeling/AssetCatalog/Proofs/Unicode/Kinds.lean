import AssetCatalog.Proofs.Unicode.Apart
import AssetCatalog.Unicode.Category

/-! The codes of a category as the bits of one number, and that letters and digits may come behind any letter. -/

set_option maxRecDepth 20000

namespace AssetCatalog.Unicode

section Kinds

/-- Some bits with those of a run, if that is wanted. -/
def withRun (wanted : Bool) (start count bits : Nat) : Nat :=
  -- Where the run is not wanted, a kernel is spared a copy of the bits.
  bif wanted then runBits start count ||| bits else bits

/-- The bits of the codes of some categories, given where each run of one category starts and the last one stops. -/
def kindBits (wanted : Category → Bool) (stop : Nat) : List (Nat × Category) → Nat
  | [] => 0
  | [(start, kind)] => withRun (wanted kind) start (stop - start) 0
  | (start, kind) :: (next, other) :: rest =>
    withRun (wanted kind) start (next - start) (kindBits wanted stop ((next, other) :: rest))

variable {wanted : Category → Bool} {stop code : Nat}

/-- The bits of a run are set at its codes, if it is wanted. -/
theorem testBit_withRun (isWanted : Bool) (start count bits : Nat) :
    (withRun isWanted start count bits).testBit code =
      (isWanted && decide (start ≤ code ∧ code < start + count) || bits.testBit code) := by
  -- If the run is not wanted, its bits are not looked at.
  cases isWanted with
  | false => rfl
  | true => exact (Nat.testBit_or _ _ _).trans (congrArg (· || _) (testBit_runBits start count code))

/-- No bit is set in front of the first run. -/
theorem testBit_kindBits_of_lt {rows : List (Nat × Category)} (below : ∀ row ∈ rows, code < row.1) :
    (kindBits wanted stop rows).testBit code = false := by
  -- Each run sets bits from its own first code on.
  induction rows with
  | nil => exact Nat.zero_testBit code
  | cons row rest ih =>
    obtain ⟨here, later⟩ := List.forall_mem_cons.mp below
    cases rest with
    | nil =>
      rw [kindBits, testBit_withRun, decide_eq_false (by omega), Bool.and_false, Nat.zero_testBit]
      rfl
    | cons next rest =>
      rw [kindBits, testBit_withRun, decide_eq_false (by omega), Bool.and_false, ih later]
      rfl

/-- In ascending runs, a bit says whether the category of its code is wanted. -/
theorem testBit_kindBits (within : code < stop) (found : Category) (first : Nat × Category)
    (rest : List (Nat × Category)) (ascending : (first :: rest).Pairwise fun a b => a.1 < b.1)
    (begun : first.1 ≤ code) :
    (kindBits wanted stop (first :: rest)).testBit code = wanted (lastRow found (first :: rest) code) := by
  induction rest generalizing first found with
  | nil =>
    rw [kindBits, testBit_withRun, decide_eq_true (by omega), Bool.and_true, Nat.zero_testBit, Bool.or_false, lastRow,
      if_neg (by omega), lastRow]
  | cons next rest ih =>
    obtain ⟨below, later⟩ := List.pairwise_cons.mp ascending
    have after := below next List.mem_cons_self
    rw [kindBits, testBit_withRun, lastRow, if_neg (by omega)]
    by_cases here : code < next.1
    · -- The code is in the first run, and the others start behind it.
      have none : (kindBits wanted stop (next :: rest)).testBit code = false := by
        refine testBit_kindBits_of_lt (List.forall_mem_cons.mpr ⟨here, fun row member => ?_⟩)
        exact Nat.lt_trans here ((List.pairwise_cons.mp later).1 row member)
      rw [none, decide_eq_true (by omega), Bool.and_true, Bool.or_false, lastRow, if_pos here]
    · -- The code is behind the first run, which sets no bit there.
      rw [decide_eq_false (by omega), Bool.and_false, Bool.false_or]
      exact ih first.2 next later (by omega)

/-- The runs of categories are in ascending order. -/
theorem pairwise_categoryRuns : categoryRuns.Pairwise fun a b => a.1 < b.1 := by
  -- Neighbours are compared, and the order is transitive.
  have chain : categoryRuns.IsChain fun a b => a.1 < b.1 := by decide +kernel
  have : IsTrans (Nat × Category) fun a b => a.1 < b.1 := ⟨fun _ _ _ => Nat.lt_trans⟩
  exact List.isChain_iff_pairwise.mp chain

/-- The bits of some categories tell whether a character has one of them. -/
theorem testBit_kindBits_category (wanted : Category → Bool) (c : Char) :
    (kindBits wanted 0x110000 categoryRuns).testBit c.toNat = wanted (category c) := by
  -- Codes of characters are within the limit of the table.
  have within : c.toNat < 0x110000 := by
    have valid : c.toNat < 0xD800 ∨ 0xDFFF < c.toNat ∧ c.toNat < 0x110000 := c.valid
    omega
  exact testBit_kindBits within _ _ _ pairwise_categoryRuns (Nat.zero_le _)

end Kinds

/-- The codes of letters and decimal digits, as the bits of one number. -/
@[irreducible] def wordBits : Nat :=
  kindBits (fun kind => kind == .casedLetter || kind == .modifierLetter || kind == .otherLetter ||
    kind == .decimalDigit) 0x110000 categoryRuns

/-- The codes of cased letters, as the bits of one number. -/
@[irreducible] def casedBits : Nat :=
  kindBits (· == .casedLetter) 0x110000 categoryRuns

/-- The bit of a character tells whether it is a letter or a decimal digit. -/
theorem testBit_wordBits (c : Char) : wordBits.testBit c.toNat = (isLetter c || isDecimalDigit c) := by
  -- The bits are those of the categories of letters and of decimal digits, and a character has one category.
  rw [wordBits, testBit_kindBits_category, isLetter, isDecimalDigit]
  cases category c <;> rfl

/-- The bit of a character tells whether it is a cased letter. -/
theorem testBit_casedBits (c : Char) : casedBits.testBit c.toNat = (category c == .casedLetter) := by
  rw [casedBits, testBit_kindBits_category]

/-- Whether the first field of a row is one of a starter that no character of the table takes. -/
def opensWell : Nat → Nat → Bool
  -- The fields are cut off from the last to the first, as they are read.
  | 0, _ => false
  | count + 1, row =>
    bif Nat.beq (row / 0x100000) 0 then !Nat.beq row 0 && isClear joiningBits row else opensWell count (row / 0x100000)

/--
All decompositions open with a starter that no character of the table takes, but for two kinds of characters.

Some are neither letters nor digits, and some decompose into a voicing mark.
-/
theorem opensWell_pages : (decompositionPages.all fun page => page.2.all fun row => opensWell 20 (row / 0x100000) ||
    (isClear wordBits (row % 0x100000) ||
      voicingMarks.any fun mark => Nat.beq mark.toNat (row / 0x100000))) = true := by
  decide +kernel

/-- No letter, digit or leading consonant of a syllable is a mark or the second character of a pair. -/
theorem wordBits_joiningBits : (runBits 0x1100 19 ||| wordBits) &&& joiningBits = 0 := by
  decide +kernel

/-- Letters, digits and leading consonants of syllables may come behind any letter. -/
theorem follows_of_word {c : Char} (known : (runBits 0x1100 19 ||| wordBits).testBit c.toNat = true) : Follows c := by
  -- No bit of words is one of the signs that join to what is before them.
  have apart := congrArg (Nat.testBit · c.toNat) wordBits_joiningBits
  rw [Nat.testBit_and, known, Bool.true_and, Nat.zero_testBit] at apart
  exact follows_of_isClear (by rw [isClear_eq, apart]; rfl)

/-- A row that opens well has a first code, and that is one of a starter that no character of the table takes. -/
theorem exists_of_opensWell {count row : Nat} (opens : opensWell count row = true) (codes : List Nat) :
    ∃ first rest, rowCodes.go count row codes = first :: rest ∧ isClear joiningBits first = true := by
  -- Induction on the fields that may still be read; the first code is in the last field.
  induction count generalizing row codes with
  | zero => cases opens
  | succ count ih =>
    rw [opensWell] at opens
    have nonzero : row ≠ 0 := by
      -- A row of no fields opens with a zero, which is no code.
      rintro rfl
      simp at opens
    rw [rowCodes.go, if_neg nonzero]
    cases last : Nat.beq (row / 0x100000) 0 with
    | false =>
      rw [last, cond_false] at opens
      exact ih opens _
    | true =>
      rw [last, cond_true, Bool.and_eq_true] at opens
      -- No field is left behind this one, which is the code.
      have small := Nat.eq_of_beq_eq_true last
      refine ⟨row % 0x100000, codes, ?_, ?_⟩
      · rw [small]
        cases count <;> rfl
      · rw [Nat.mod_eq_of_lt (by omega)]
        exact opens.2

/-- A syllable begins with a leading consonant. -/
theorem exists_hangulParts (place : Nat) : ∃ rest, hangulParts place = (0x1100 + place / 588) :: rest := by
  -- The consonant at the end is left out for some syllables, but not the one in front.
  unfold hangulParts
  dsimp only
  split <;> exact ⟨_, rfl⟩

/-- A row opens with a code that follows any letter, unless it is of no letter or digit, or is a voicing mark. -/
theorem IsRow.exists_of_word {row : Nat} (listed : IsRow row) (word : wordBits.testBit (row % 0x100000) = true) :
    (∃ first rest, rowCodes (row / 0x100000) = first :: rest ∧ isClear joiningBits first = true) ∨
      ∃ mark ∈ voicingMarks, rowCodes (row / 0x100000) = [mark.toNat] := by
  -- The table was checked for rows of letters and digits alone.
  have checked := listed.of_all opensWell_pages
  rw [isClear_eq, word, Bool.not_true, Bool.false_or, Bool.or_eq_true] at checked
  rcases checked with opens | voiced
  · exact .inl (exists_of_opensWell opens [])
  · obtain ⟨mark, voicing, same⟩ := List.any_eq_true.mp voiced
    have field : 0 < mark.toNat ∧ mark.toNat < 0x100000 := by
      rcases List.mem_pair.mp voicing with rfl | rfl <;> decide
    exact .inr ⟨mark, voicing, by rw [← Nat.eq_of_beq_eq_true same, rowCodes_single field.1 field.2]⟩

/-- Letters and digits may come behind any letter. -/
theorem behind_of_word {c : Char} (word : (isLetter c || isDecimalDigit c) = true) : Behind c := by
  rw [← testBit_wordBits] at word
  obtain ⟨place, small, -, parts⟩ | plain | ⟨row, listed, own, parts⟩ := decompose_cases c
  · -- A syllable opens with a leading consonant.
    obtain ⟨rest, consonant⟩ := exists_hangulParts place
    have code : (Char.ofNat (0x1100 + place / 588)).toNat = 0x1100 + place / 588 :=
      toNat_ofNat (by omega) (by omega)
    refine .inl ⟨Char.ofNat (0x1100 + place / 588), rest.map Char.ofNat, ?_, follows_of_word ?_⟩
    · rw [parts, consonant, List.map_cons]
    · rw [code, Nat.testBit_or, testBit_runBits, decide_eq_true (by omega), Bool.true_or]
  · -- A character that stays as it is opens its own decomposition.
    exact .inl ⟨c, [], plain, follows_of_word (by rw [Nat.testBit_or, word, Bool.or_true])⟩
  · -- A row opens with a code that may come behind any letter, or is a voicing mark alone.
    obtain ⟨first, rest, codes, clear⟩ | ⟨mark, voicing, codes⟩ := listed.exists_of_word (own.symm ▸ word)
    · have code : (Char.ofNat first).toNat = first := listed.toNat_ofNat (codes ▸ List.mem_cons_self)
      refine .inl ⟨Char.ofNat first, rest.map Char.ofNat, ?_, follows_of_isClear (code.symm ▸ clear)⟩
      rw [parts, codes, List.map_cons]
    · exact .inr ⟨mark, voicing, by rw [parts, codes, List.map_singleton, Char.ofNat_toNat]⟩

end AssetCatalog.Unicode
