import AssetCatalog.Unicode.Normal
import Mathlib.Algebra.Group.Nat.Defs

/-! Full decompositions are full: what characters decompose into does not decompose again. -/

set_option maxRecDepth 20000

namespace AssetCatalog.Unicode

/-- Whether a character does not decompose. -/
def IsPlain (c : Char) : Prop :=
  decompose c = [c]

section Bits

/-- The bits of a run of numbers. -/
def runBits (start count : Nat) : Nat :=
  (2 ^ count - 1) <<< start

/-- The bits of the codes that some rows are for. -/
def pageBits (rows : List Nat) : Nat :=
  rows.foldr (fun row bits => 1 <<< (row % 0x100000) ||| bits) 0

/-- The bits of the codes that the rows of some pages are for. -/
def rowBits (pages : List (Nat × List Nat)) : Nat :=
  pages.foldr (fun page bits => pageBits page.2 ||| bits) 0

/-- Whether a bit is clear. -/
def isClear (bits place : Nat) : Bool :=
  Nat.beq (bits >>> place % 2) 0

/-- The bits of a run are set from its start on, as many as it counts. -/
theorem testBit_runBits (start count place : Nat) :
    (runBits start count).testBit place = decide (start ≤ place ∧ place < start + count) := by
  -- A bit of the shifted number is the bit of the mask at the place counted from the start.
  rw [runBits, Nat.testBit_shiftLeft, Nat.testBit_two_pow_sub_one, ← Bool.decide_and]
  exact decide_eq_decide.mpr (by omega)

/-- The bits of rows are set at the codes of the rows. -/
theorem testBit_pageBits (rows : List Nat) (code : Nat) :
    (pageBits rows).testBit code = rows.any fun row => row % 0x100000 == code := by
  -- Each row sets one bit, and the bits of the rows are joined.
  induction rows with
  | nil => simp [pageBits]
  | cons row rest ih =>
    have step : pageBits (row :: rest) = 1 <<< (row % 0x100000) ||| pageBits rest := rfl
    rw [step, Nat.testBit_or, ih, List.any_cons, Nat.one_shiftLeft, Nat.testBit_two_pow]
    rfl

/-- The bits of pages are set at the codes of the rows of the pages. -/
theorem testBit_rowBits (pages : List (Nat × List Nat)) (code : Nat) :
    (rowBits pages).testBit code = pages.any fun page => page.2.any fun row => row % 0x100000 == code := by
  -- Induction on the pages, whose bits are joined.
  induction pages with
  | nil => simp [rowBits]
  | cons page rest ih =>
    have step : rowBits (page :: rest) = pageBits page.2 ||| rowBits rest := rfl
    rw [step, Nat.testBit_or, testBit_pageBits, ih, List.any_cons]

/-- A bit is clear if it is not set. -/
theorem testBit_of_isClear {bits place : Nat} (clear : isClear bits place = true) :
    bits.testBit place = false := by
  -- The bit is the lowest one after the shift, and it is clear where that number is even.
  have even : bits >>> place % 2 = 0 := Nat.eq_of_beq_eq_true clear
  rw [Nat.testBit_eq_decide_div_mod_eq, ← Nat.shiftRight_eq_div_pow, even]
  rfl

/-- No page has a row for a code whose bit is clear. -/
theorem lookup_of_testBit {pages : List (Nat × List Nat)} {code : Nat}
    (clear : (rowBits pages).testBit code = false) (page : Nat) :
    ((pages.lookup page).bind fun rows => rows.find? fun row => row % 0x100000 == code) = none := by
  -- A row for the code would set the bit, on whichever page it is.
  rw [testBit_rowBits] at clear
  cases found : pages.lookup page with
  | none => rfl
  | some rows =>
    have known : (page, rows) ∈ pages := by
      obtain ⟨before, after, rfl, _⟩ := List.lookup_eq_some_iff.mp found
      simp
    have absent := List.any_eq_false.mp clear _ known
    simpa using absent

/-- A clear bit is that of a code without a row and outside a run. -/
theorem outside_of_isClear {start count code : Nat} {pages : List (Nat × List Nat)}
    (clear : isClear (runBits start count ||| rowBits pages) code = true) :
    (∀ page, ((pages.lookup page).bind fun rows => rows.find? fun row => row % 0x100000 == code) = none) ∧
      ¬ (start ≤ code ∧ code < start + count) := by
  -- The bits of the run and of the rows are taken together, so that both are unset.
  have unset := testBit_of_isClear clear
  rw [Nat.testBit_or, Bool.or_eq_false_iff, testBit_runBits] at unset
  exact ⟨lookup_of_testBit unset.2, of_decide_eq_false unset.1⟩

end Bits

attribute [irreducible] runBits rowBits

/-- The codes with rows, the Hangul syllables and the surrogates, as the bits of one number. -/
@[irreducible] def excludedBits : Nat :=
  runBits 0xAC00 0x3400 ||| rowBits decompositionPages

/-- Whether a code is one of a character that does not decompose. -/
def isFree (code : Nat) : Bool :=
  -- One number holds what the tables say of all codes, so that a kernel reads them only once.
  isClear excludedBits code

/-- A free code has no row and is neither a Hangul syllable nor a surrogate. -/
theorem outside_of_isFree {code : Nat} (free : isFree code = true) :
    decompositionRow? code = none ∧ (code < 0xAC00 ∨ 0xE000 ≤ code) := by
  -- What is excluded are the codes of Hangul and surrogates, and those of the rows.
  have clear : isClear (runBits 0xAC00 0x3400 ||| rowBits decompositionPages) code = true := by
    rw [← free, isFree, excludedBits]
  obtain ⟨rowless, outside⟩ := outside_of_isClear clear
  exact ⟨rowless _, by omega⟩

/-- A character does not decompose if its code is free. -/
theorem isPlain_of_isFree {c : Char} (free : isFree c.toNat = true) : IsPlain c := by
  -- The two ways to decompose are the arithmetic of the syllables and the table.
  obtain ⟨rowless, outside⟩ := outside_of_isFree free
  have noSyllable : ¬ (hangulSyllables.1 ≤ c.toNat ∧ c.toNat < hangulSyllables.1 + hangulSyllables.2) := by
    simp only [hangulSyllables]
    omega
  simp [IsPlain, decompose, noSyllable, decomposition?, rowless]

/-- A code outside the surrogates is the code of its character. -/
theorem toNat_ofNat {code : Nat} (outside : code < 0xD800 ∨ 0xE000 ≤ code) (small : code < 0x110000) :
    (Char.ofNat code).toNat = code := by
  -- Outside the surrogates every code is that of a character.
  have valid : code.isValidChar := by
    unfold Nat.isValidChar
    omega
  rw [Char.ofNat, dif_pos valid]
  rfl

/-- A code that is free gives a character that does not decompose. -/
theorem isPlain_ofNat {code : Nat} (free : isFree code = true) (small : code < 0x110000) :
    IsPlain (Char.ofNat code) := by
  -- A free code is no surrogate, so it is that of its character.
  obtain ⟨_, outside⟩ := outside_of_isFree free
  refine isPlain_of_isFree ?_
  rwa [toNat_ofNat (by omega) small]

/-- Whether the last fields of a row are free codes. -/
def fieldsFree : Nat → Nat → Bool
  -- The fields are cut off from the last to the first, as they are read.
  | 0, _ => true
  | count + 1, row =>
    bif Nat.beq row 0 then true else isFree (row % 0x100000) && fieldsFree count (row / 0x100000)

/-- Where the fields of a row are free, the codes of the row are. -/
theorem isFree_of_mem_rowCodes {row : Nat} (free : fieldsFree 20 row = true) :
    ∀ code ∈ rowCodes row, isFree code = true ∧ code < 0x110000 := by
  -- The codes are read from the last to the first, each in front of those read before.
  have read : ∀ (count row : Nat) (codes : List Nat), fieldsFree count row = true →
      (∀ code ∈ codes, isFree code = true ∧ code < 0x110000) →
        ∀ code ∈ rowCodes.go count row codes, isFree code = true ∧ code < 0x110000 := by
    intro count
    induction count with
    | zero => exact fun _ _ _ known => known
    | succ count ih =>
      intro row codes free known
      rw [rowCodes.go]
      by_cases empty : row = 0
      · rwa [if_pos empty]
      · have nonzero : Nat.beq row 0 = false :=
          Bool.eq_false_iff.mpr fun zero => empty (Nat.eq_of_beq_eq_true zero)
        rw [fieldsFree, nonzero, cond_false, Bool.and_eq_true] at free
        rw [if_neg empty]
        refine ih _ _ free.2 fun code member => ?_
        -- A code is the one just read, or was read before.
        rcases List.mem_cons.mp member with rfl | earlier
        · exact ⟨free.1, by omega⟩
        · exact known code earlier
  exact read 20 row [] free (by simp)

/-- A row of the table of decompositions. -/
def IsRow (row : Nat) : Prop :=
  ∃ page ∈ decompositionPages, row ∈ page.2

/-- What was checked for all rows of all pages holds of a row. -/
theorem IsRow.of_all {row : Nat} {check : Nat → Bool} (listed : IsRow row)
    (checked : (decompositionPages.all fun page => page.2.all check) = true) : check row = true := by
  -- The check went over all pages, and over all rows of each.
  obtain ⟨page, known, member⟩ := listed
  exact List.all_eq_true.mp (List.all_eq_true.mp checked page known) row member

/-- All fields of all decompositions are free codes. -/
theorem fieldsFree_pages :
    (decompositionPages.all fun page => page.2.all fun row => fieldsFree 20 (row / 0x100000)) = true := by
  decide +kernel

/-- The jamo are free codes. -/
theorem isFree_jamo : ((List.range 0x100).all fun place => isFree (0x1100 + place)) = true := by
  decide +kernel

/-- Every code of the jamo block is free. -/
theorem isFree_of_jamo {code : Nat} (low : 0x1100 ≤ code) (high : code < 0x1200) :
    isFree code = true := by
  have free := List.all_eq_true.mp isFree_jamo (code - 0x1100) (List.mem_range.mpr (by omega))
  -- The check went through the block counted from its start.
  rwa [Nat.add_sub_cancel' low] at free

/-- The parts of a Hangul syllable are jamo. -/
theorem mem_hangulParts {place code : Nat} (small : place < 11172) (member : code ∈ hangulParts place) :
    0x1100 ≤ code ∧ code < 0x1200 := by
  -- There are two parts without an ending and three with one, all within the jamo block.
  unfold hangulParts at member
  dsimp only at member
  split at member
  · simp only [List.mem_cons, List.not_mem_nil, or_false] at member
    omega
  · simp only [List.mem_cons, List.not_mem_nil, or_false] at member
    omega

/-- The codes of every row are free. -/
theorem IsRow.isFree {row : Nat} (listed : IsRow row) :
    ∀ code ∈ rowCodes (row / 0x100000), isFree code = true ∧ code < 0x110000 :=
  isFree_of_mem_rowCodes (listed.of_all fieldsFree_pages)

/-- The codes of every row are those of their characters. -/
theorem IsRow.toNat_ofNat {row code : Nat} (listed : IsRow row) (member : code ∈ rowCodes (row / 0x100000)) :
    (Char.ofNat code).toNat = code := by
  -- The codes are free, hence no surrogates.
  obtain ⟨free, small⟩ := listed.isFree code member
  have outside := (outside_of_isFree free).2
  exact Unicode.toNat_ofNat (by omega) small

/-- A character decomposes as a syllable, into itself, or by the row of the table that ends in its code. -/
theorem decompose_cases (c : Char) :
    (∃ place < 11172, c.toNat = 0xAC00 + place ∧ decompose c = (hangulParts place).map Char.ofNat) ∨
      decompose c = [c] ∨
        ∃ row, IsRow row ∧ row % 0x100000 = c.toNat ∧ decompose c = (rowCodes (row / 0x100000)).map Char.ofNat := by
  by_cases syllable : 0xAC00 ≤ c.toNat ∧ c.toNat < 0xAC00 + 11172
  · exact .inl ⟨c.toNat - 0xAC00, by omega, by omega, if_pos syllable⟩
  · refine .inr ?_
    cases found : decompositionRow? c.toNat with
    | none => exact .inl (by simp [decompose, hangulSyllables, syllable, decomposition?, found])
    | some row =>
      -- The row is on the page of the table that the first digits of the code lead to.
      obtain ⟨rows, page, inPage⟩ := Option.bind_eq_some_iff.mp found
      obtain ⟨before, after, pages, -⟩ := List.lookup_eq_some_iff.mp page
      have known : (c.toNat / 0x100, rows) ∈ decompositionPages := pages ▸ (by simp)
      refine .inr ⟨row, ⟨_, known, List.mem_of_find?_eq_some inPage⟩, by simpa using List.find?_some inPage, ?_⟩
      simp [decompose, hangulSyllables, syllable, decomposition?, found]

/-- The characters of a decomposition do not decompose any further. -/
theorem isPlain_of_mem_decompose {c part : Char} (member : part ∈ decompose c) : IsPlain part := by
  -- Parts of syllables are jamo, and the tables were checked for all other parts.
  obtain ⟨place, small, -, parts⟩ | plain | ⟨row, listed, -, parts⟩ := decompose_cases c
  · rw [parts] at member
    obtain ⟨code, isPart, rfl⟩ := List.mem_map.mp member
    obtain ⟨low, high⟩ := mem_hangulParts small isPart
    exact isPlain_ofNat (isFree_of_jamo low high) (by omega)
  · have same : part = c := List.mem_singleton.mp (plain ▸ member)
    exact same ▸ plain
  · rw [parts] at member
    obtain ⟨code, isPart, rfl⟩ := List.mem_map.mp member
    obtain ⟨free, small⟩ := listed.isFree code isPart
    exact isPlain_ofNat free small

end AssetCatalog.Unicode
