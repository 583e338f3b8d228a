import AssetCatalog.Proofs.Unicode.Boundary

/-! What the tables say of letters: which of them stand apart from what is around them. -/

set_option maxRecDepth 20000

namespace AssetCatalog.Unicode

section Bits

/-- The bits of the codes in some spans, each given by its first and its last code. -/
def spanBits (spans : List (Nat × Nat)) : Nat :=
  spans.foldr (fun span bits => runBits span.1 (span.2 + 1 - span.1) ||| bits) 0

/-- The bits of spans are set at the codes in them. -/
theorem testBit_spanBits (spans : List (Nat × Nat)) (code : Nat) :
    (spanBits spans).testBit code = spans.any fun span => span.1 ≤ code && code ≤ span.2 := by
  -- The bits of a span are those of a run from its first code on.
  induction spans with
  | nil => simp [spanBits]
  | cons span rest ih =>
    have step : spanBits (span :: rest) = runBits span.1 (span.2 + 1 - span.1) ||| spanBits rest := rfl
    rw [step, Nat.testBit_or, testBit_runBits, ih, List.any_cons, ← Bool.decide_and]
    congr 1
    exact decide_eq_decide.mpr (by omega)

/-- A bit is clear or set. -/
theorem isClear_eq (bits place : Nat) : isClear bits place = !bits.testBit place := by
  -- Both take the bit as a remainder of two.
  rw [isClear, Nat.testBit_eq_decide_div_mod_eq, ← Nat.shiftRight_eq_div_pow]
  rcases Nat.mod_two_eq_zero_or_one (bits >>> place) with even | odd
  · rw [even]; rfl
  · rw [odd]; rfl

end Bits

/-- The codes of marks and those of the second characters of pairs, as the bits of one number. -/
@[irreducible] def joiningBits : Nat :=
  spanBits (combiningRuns.map fun run => (run.1, run.2.1)) ||| pageBits (compositionRows.map (· / 0x100000))

/-- A code whose bit is clear is that of a starter which no character of the table takes. -/
theorem follows_of_isClear {c : Char} (clear : isClear joiningBits c.toNat = true) : Follows c := by
  -- The clear bit says that no run of classes has the code, and that no pair has it second.
  have unset := testBit_of_isClear clear
  rw [joiningBits, Nat.testBit_or, Bool.or_eq_false_iff, testBit_spanBits, testBit_pageBits] at unset
  obtain ⟨outside, unlisted⟩ := unset
  constructor
  · have absent : combiningRuns.find? (fun run => run.1 ≤ c.toNat && c.toNat ≤ run.2.1) = none := by
      simpa [List.any_map, Function.comp_def] using outside
    rw [combiningClass, absent]
  · simpa [List.any_map] using unlisted

/-- Whether a code is outside the jamo, the Hangul syllables and the kana. -/
def isOutside (code : Nat) : Bool :=
  -- The comparisons are those that a kernel computes by itself.
  Nat.ble code 0x10FF || (Nat.ble 0x1200 code && Nat.ble code 0x303F) || (Nat.ble 0x3100 code && Nat.ble code 0xABFF)
    || Nat.ble 0xE000 code

/-- The jamo, the kana and the Hangul syllables with what comes behind them are excluded by their ranges. -/
theorem isOutside_iff {code : Nat} : isOutside code = true ↔
    code < 0x1100 ∨ (0x1200 ≤ code ∧ code < 0x3040) ∨ (0x3100 ≤ code ∧ code < 0xAC00) ∨ 0xE000 ≤ code := by
  -- The test gives the gaps between the ranges, with their ends.
  simp only [isOutside, Bool.or_eq_true, Bool.and_eq_true, Nat.ble_eq]
  omega

section Pairs

variable {first second : Char}

/-- Outside the jamo and syllables, a pair composes by the table alone. -/
theorem compose?_of_outside (outside : isOutside first.toNat = true ∨ isOutside second.toNat = true) :
    compose? first second = (composition? compositionRows first.toNat second.toNat).map Char.ofNat := by
  -- The two rules for Hangul ask for jamo or syllables on both sides.
  rw [isOutside_iff, isOutside_iff] at outside
  unfold compose?
  dsimp only
  rw [if_neg (by omega), if_neg (by omega)]

/-- A pair whose second character is in no row does not compose. -/
theorem compose?_of_follows (follows : Follows second)
    (outside : isOutside first.toNat = true ∨ isOutside second.toNat = true) : compose? first second = none := by
  -- A row with the pair would have the second character in its second field.
  have absent : composition? compositionRows first.toNat second.toNat = none := by
    refine Option.eq_none_iff_forall_ne_some.mpr fun code composed => ?_
    obtain ⟨row, member, -, isSecond, -⟩ := mem_of_composition? composed
    exact follows.unlisted row member isSecond
  rw [compose?_of_outside outside, absent, Option.map_none]

/-- Voicing marks join kana alone. -/
theorem compose?_voicingMark (outside : isOutside first.toNat = true) (voicing : second ∈ voicingMarks) :
    compose? first second = none := by
  -- All rows of the table were checked: outside of kana none has a voicing mark.
  have checked : ∀ row ∈ compositionRows, isOutside (row / 0x10000000000) = true →
      ¬ (Nat.beq (row / 0x100000 % 0x100000) 0x3099 || Nat.beq (row / 0x100000 % 0x100000) 0x309A) = true := by
    have all : (compositionRows.all fun row => !isOutside (row / 0x10000000000) ||
        !(Nat.beq (row / 0x100000 % 0x100000) 0x3099 || Nat.beq (row / 0x100000 % 0x100000) 0x309A)) = true := by
      decide
    intro row member apart mark
    have kept := List.all_eq_true.mp all row member
    rw [apart, mark] at kept
    cases kept
  have absent : composition? compositionRows first.toNat second.toNat = none := by
    -- A row with the pair would have a voicing mark behind a character that is no kana.
    refine Option.eq_none_iff_forall_ne_some.mpr fun code composed => ?_
    obtain ⟨row, member, isFirst, isSecond, -⟩ := mem_of_composition? composed
    refine checked row member (isFirst ▸ outside) ?_
    rw [isSecond]
    have known : (voicingMarks.all fun mark => Nat.beq mark.toNat 0x3099 || Nat.beq mark.toNat 0x309A) = true := by
      decide
    exact List.all_eq_true.mp known second voicing
  rw [compose?_of_outside (.inl outside), absent, Option.map_none]

end Pairs

/-- Whether a code is one of a letter that stands apart and has no marks of its own. -/
def isSingle (code : Nat) : Bool :=
  isFree code && isClear joiningBits code && isOutside code

/-- A letter without marks of its own stands apart. -/
theorem standsApart_of_isSingle {c : Char} (single : isSingle c.toNat = true) : StandsApart c c [] := by
  -- Without marks, all that is asked of marks holds for want of any.
  rw [isSingle, Bool.and_eq_true, Bool.and_eq_true] at single
  obtain ⟨⟨free, clear⟩, outside⟩ := single
  have follows := follows_of_isClear clear
  -- What comes behind such a letter neither joins it nor is joined by it.
  exact {
    decomposed := isPlain_of_isFree free
    follows := follows
    alone := fun first => compose?_of_follows follows (.inr outside)
    ordered := List.isChain_nil
    high := by simp
    joined := fun _ _ _ => rfl
    closed := fun c behind => compose?_of_follows behind (.inl outside)
    voiceless := fun mark voicing => compose?_voicingMark outside voicing }

/-- The combining class of a code, told by recursors, which a kernel evaluates without detours. -/
noncomputable def classOf (code : Nat) : Nat :=
  (firstOf (fun run : Nat × Nat × Nat => Nat.ble run.1 code && Nat.ble code run.2.1) combiningRuns).rec 0
    fun run => run.2.2

/-- The class of a code is that of its character. -/
theorem classOf_eq (c : Char) : classOf c.toNat = combiningClass c := by
  -- The kernel compares numbers by functions of its own, which decide the same.
  have tests : (fun run : Nat × Nat × Nat => Nat.ble run.1 c.toNat && Nat.ble c.toNat run.2.1) =
      fun run => decide (run.1 ≤ c.toNat) && decide (c.toNat ≤ run.2.1) := by
    funext run
    exact Bool.eq_iff_iff.mpr (by simp [Nat.ble_eq])
  rw [classOf, firstOf_eq_find?, tests, combiningClass]
  cases combiningRuns.find? _ <;> rfl

/-- Characters that decompose in ways of their own, so that what is made of them is not made of letters. -/
def unstacked : List Nat :=
  [0x00A8, 0x017F, 0x03D2, 0x0DDC, 0x1FBF, 0x1FFE]

/-- The rows of letters with a mark above or below them. -/
def stackedRows : List Nat :=
  compositionRows.filter fun row =>
    -- These are the marks of the block of all scripts, without those that are drawn through a letter.
    let mark := row / 0x100000 % 0x100000
    (Nat.ble 0x0300 mark && Nat.ble mark 0x0333 || Nat.ble 0x0339 mark && Nat.ble mark 0x0345) &&
      unstacked.all fun code => !Nat.beq code (row / 0x10000000000)

/-- The codes of letters with a mark above or below them, as the bits of one number. -/
@[irreducible] def stackedBits : Nat :=
  pageBits stackedRows

/-- Whether a row adds a mark to a letter that stands apart, behind the marks of that. -/
noncomputable def isStacked (row : Nat) : Bool :=
  let first := row / 0x10000000000
  let second := row / 0x100000 % 0x100000
  isListed second && Nat.ble 9 (classOf second) && isOutside first && isOutside (row % 0x100000) && (isSingle first ||
    (!isClear stackedBits first && Nat.ble (classOf (packed first % 0x100000)) (classOf second)))

/-- All rows of letters with a mark above or below them add it to a letter that stands apart. -/
theorem isStacked_stackedRows : stackedRows.all isStacked = true := by
  decide +kernel

/-- In ascending rows, the pair of a row makes the character of that row. -/
theorem composition?_of_mem {rows : List Nat} (ascending : rows.Pairwise fun a b => a / 0x100000 < b / 0x100000)
    {row : Nat} (member : row ∈ rows) :
    composition? rows (row / 0x10000000000) (row / 0x100000 % 0x100000) = some (row % 0x100000) := by
  induction rows with
  | nil => cases member
  | cons other rest ih =>
    obtain ⟨first, later⟩ := List.pairwise_cons.mp ascending
    rw [composition?]
    rcases List.mem_cons.mp member with rfl | behind
    · exact if_pos ⟨rfl, rfl⟩
    · -- The pair of the first row comes before that of the row, so they differ.
      have below := first row behind
      rw [if_neg (by omega)]
      exact ih later behind

/-- The rows of the table are in ascending order. -/
theorem pairwise_compositionRows : compositionRows.Pairwise fun a b => a / 0x100000 < b / 0x100000 := by
  -- Neighbours are compared, and the order is transitive.
  have chain : compositionRows.IsChain fun a b => a / 0x100000 < b / 0x100000 := by decide
  have : IsTrans Nat fun a b => a / 0x100000 < b / 0x100000 := ⟨fun _ _ _ => Nat.lt_trans⟩
  exact List.isChain_iff_pairwise.mp chain

/-- What a row of the table says of its pair and of what that makes. -/
theorem undone_of_mem {row : Nat} (member : row ∈ compositionRows) :
    isListed (row / 0x10000000000) = true ∧ isListed (row % 0x100000) = true ∧
      packed (row % 0x100000) % 0x100000 = row / 0x100000 % 0x100000 := by
  -- The check of the whole table is read off at one row.
  have undone := List.all_eq_true.mp isUndone_compositionRows row member
  simp only [isUndone, Bool.and_eq_true] at undone
  obtain ⟨⟨⟨⟨listed, listedResult⟩, -⟩, -⟩, same⟩ := undone
  refine ⟨listed, listedResult, ?_⟩
  rw [Nat.eq_of_beq_eq_true same]
  omega

/-- The character of a listed code has that code. -/
theorem toNat_ofNat_of_isListed {code : Nat} (listed : isListed code = true) : (Char.ofNat code).toNat = code := by
  -- A listed code is no surrogate and is within bounds.
  obtain ⟨-, outside, small⟩ := isListed_iff.mp listed
  exact toNat_ofNat (by omega) (by omega)

/-- A letter with a mark above or below it is made of a letter and a mark.  The letter has no marks of
its own, or is another letter with a mark above or below it, which does not come behind the new one. -/
theorem exists_of_stacked {code : Nat} (stacked : stackedBits.testBit code = true) :
    ∃ letter mark, compose? letter mark = some (Char.ofNat code) ∧ 8 < combiningClass mark ∧
      mark.toNat = packed code % 0x100000 ∧ (∀ c, Follows c → compose? (Char.ofNat code) c = none) ∧
        (isSingle letter.toNat = true ∨ stackedBits.testBit letter.toNat = true ∧
          classOf (packed letter.toNat % 0x100000) ≤ combiningClass mark) := by
  -- The bit is that of a row, and the table was checked at each of its rows.
  rw [stackedBits, testBit_pageBits, List.any_eq_true] at stacked
  obtain ⟨row, member, isCode⟩ := stacked
  obtain rfl := eq_of_beq isCode
  have checked := List.all_eq_true.mp isStacked_stackedRows row member
  have known := List.mem_of_mem_filter member
  obtain ⟨listed, listedResult, lastCode⟩ := undone_of_mem known
  simp only [isStacked, Bool.and_eq_true] at checked
  obtain ⟨⟨⟨⟨listedMark, above⟩, outside⟩, outsideResult⟩, standing⟩ := checked
  have isFirst := toNat_ofNat_of_isListed listed
  have isMark := toNat_ofNat_of_isListed listedMark
  have isResult := toNat_ofNat_of_isListed listedResult
  -- The row gives the pair: the letter in its high field, and the mark in the next one.
  refine ⟨Char.ofNat (row / 0x10000000000), Char.ofNat (row / 0x100000 % 0x100000), ?_, ?_, ?_, ?_, ?_⟩
  · rw [compose?_of_outside (.inl (isFirst.symm ▸ outside)), isFirst, isMark,
      composition?_of_mem pairwise_compositionRows known, Option.map_some]
  · rw [← classOf_eq, isMark]
    exact Nat.ble_eq.mp above
  · rw [isMark, lastCode]
  · exact fun c behind => compose?_of_follows behind (.inl (isResult.symm ▸ outsideResult))
  · rw [← classOf_eq, isFirst, isMark]
    rw [Bool.or_eq_true, Bool.and_eq_true, isClear_eq, Bool.not_not, Nat.ble_eq] at standing
    exact standing

/-- A letter with a mark above or below it stands apart, and the last mark of its own is the one it is listed with. -/
theorem exists_standsApart_of_stacked {code : Nat} (stacked : stackedBits.testBit code = true) :
    ∃ base own, StandsApart (Char.ofNat code) base own ∧
      ∀ last ∈ own.getLast?, last.toNat = packed code % 0x100000 := by
  -- The letter that gets the mark has a shorter decomposition.
  induction length : (decompose (Char.ofNat code)).length using Nat.strong_induction_on generalizing code with
  | _ size ih =>
    obtain ⟨letter, mark, composed, high, isMark, closed, standing⟩ := exists_of_stacked stacked
    obtain ⟨base, own, apart, inOrder⟩ : ∃ base own, StandsApart letter base own ∧
        ∀ other ∈ own.getLast?, combiningClass other ≤ combiningClass mark := by
      -- The letter is a single one, or has a mark of its own, of no higher class.
      rcases standing with single | ⟨further, below⟩
      · exact ⟨letter, [], standsApart_of_isSingle single, by simp⟩
      · have shorter : (decompose (Char.ofNat letter.toNat)).length < size := by
          rw [← length, decompose_of_compose? composed, List.length_append, Char.ofNat_toNat]
          exact Nat.lt_succ_self _
        obtain ⟨base, own, apart, last⟩ := ih _ shorter further rfl
        rw [Char.ofNat_toNat] at apart
        refine ⟨base, own, apart, fun other isLast => ?_⟩
        rw [← classOf_eq, last other isLast]
        exact below
    refine ⟨base, _, apart.join composed high inOrder closed, fun last isLast => ?_⟩
    rw [List.getLast?_append, List.getLast?_singleton, Option.some_or, Option.mem_some_iff] at isLast
    rw [← isLast, isMark]

/-- Whether the tables say of a code that its letter stands apart. -/
def isApart (code : Nat) : Bool :=
  isSingle code || !isClear stackedBits code

/-- A letter of which the tables say so stands apart. -/
theorem exists_standsApart {c : Char} (apart : isApart c.toNat = true) : ∃ base own, StandsApart c base own := by
  -- The tables tell letters without marks from those with one on top of another.
  rw [isApart, Bool.or_eq_true] at apart
  rcases apart with single | stacked
  · exact ⟨c, [], standsApart_of_isSingle single⟩
  · rw [isClear_eq, Bool.not_not] at stacked
    obtain ⟨base, own, standing, -⟩ := exists_standsApart_of_stacked stacked
    exact ⟨base, own, Char.ofNat_toNat c ▸ standing⟩

end AssetCatalog.Unicode
