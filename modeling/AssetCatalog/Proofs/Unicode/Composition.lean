import AssetCatalog.Proofs.Unicode.Decomposition

/-! Composition undoes decomposition: a pair that makes one character is what the character decomposes into. -/

set_option maxRecDepth 20000

namespace AssetCatalog.Unicode

/-- The first entry that passes a test, told by recursors, which a kernel evaluates without detours. -/
noncomputable def firstOf {α : Type} (test : α → Bool) (entries : List α) : Option α :=
  entries.rec none fun entry _ later => (test entry).rec later (some entry)

/-- The first entry that passes a test is the one that is found. -/
theorem firstOf_eq_find? {α : Type} (test : α → Bool) (entries : List α) :
    firstOf test entries = entries.find? test := by
  -- The search is written by the recursor of truth values, which the kernel evaluates faster.
  induction entries with
  | nil => rfl
  | cons entry rest ih =>
    have step : firstOf test (entry :: rest) = (test entry).rec (firstOf test rest) (some entry) := rfl
    rw [step, ih]
    cases passed : test entry <;> simp [passed]

/-- The row of a code in the tables of decompositions. -/
noncomputable def row? (code : Nat) : Option Nat :=
  (firstOf (fun page => Nat.beq page.1 (code / 0x100)) decompositionPages).bind fun page =>
    firstOf (fun row => Nat.beq (Nat.mod row 0x100000) code) page.2

/-- A page is looked up by finding the first one with its number. -/
theorem lookup_eq_find? (pages : List (Nat × List Nat)) (number : Nat) :
    pages.lookup number = (pages.find? fun page => Nat.beq page.1 number).map Prod.snd := by
  -- Both go through the pages in order, and compare the numbers in different ways.
  induction pages with
  | nil => rfl
  | cons page rest ih =>
    rw [List.lookup_cons, List.find?_cons]
    by_cases here : page.1 = number
    · have same : Nat.beq page.1 number = true := Nat.beq_eq.mpr here
      have alike : (number == page.1) = true := by simpa using here.symm
      rw [same, alike]
      rfl
    · -- Another number fails both comparisons.
      have other : Nat.beq page.1 number = false :=
        Bool.eq_false_iff.mpr fun same => here (Nat.eq_of_beq_eq_true same)
      have different : (number == page.1) = false := by simpa using Ne.symm here
      rw [other, different]
      exact ih

/-- The row of a code is the one that is looked up. -/
theorem row?_eq (code : Nat) : row? code = decompositionRow? code := by
  -- Both look for the page first and for the row on it then; only the tests are spelled differently.
  have tests : (fun row => Nat.beq (Nat.mod row 0x100000) code) = fun row => row % 0x100000 == code := by
    funext row
    exact Bool.eq_iff_iff.mpr (by rw [Nat.beq_eq, beq_iff_eq]; rfl)
  simp only [row?, decompositionRow?, firstOf_eq_find?, lookup_eq_find?, tests, Option.bind_map]
  rfl

/-- The codes of the full decomposition of a code, packed into one number as in a row. -/
noncomputable def packed (code : Nat) : Nat :=
  -- A free code has no row, which spares looking it up.
  bif isFree code then code else match row? code with
    | some row => row / 0x100000
    | none => code

/-- Whether a code has a place in the tables, being neither a Hangul syllable nor a surrogate. -/
def isListed (code : Nat) : Bool :=
  -- The comparisons are those that a kernel computes by itself.
  Nat.ble 1 code && (Nat.ble code 0xABFF || Nat.ble 0xE000 code) && Nat.ble code 0xFFFFF

/-- A listed code is positive, has five digits, and lies outside the syllables and surrogates. -/
theorem isListed_iff {code : Nat} : isListed code = true ↔
    0 < code ∧ (code < 0xAC00 ∨ 0xE000 ≤ code) ∧ code < 0x100000 := by
  -- The test takes the same bounds one by one.
  simp only [isListed, Bool.and_eq_true, Bool.or_eq_true, Nat.ble_eq]
  omega

/-- Whether the result of a composition decomposes like its first part with the second part behind it. -/
noncomputable def isUndone (row : Nat) : Bool :=
  -- The bound on the first part leaves room for one more field behind it.
  let first := row / 0x10000000000
  let joined := row % 0x100000
  isListed first && isListed joined && Nat.ble 1 (packed first) && Nat.ble (packed first) 0x1000000000000000 &&
    Nat.beq (packed joined) (packed first * 0x100000 + row / 0x100000 % 0x100000)

/-- The tables of decompositions undo all compositions. -/
theorem isUndone_compositionRows : compositionRows.all isUndone = true := by
  decide +kernel

/-- What is packed for a code is its row without the code, or the code itself. -/
theorem packed_eq (code : Nat) :
    packed code = match decompositionRow? code with
      | some row => row / 0x100000
      | none => code := by
  -- A free code has no row, which is what the faster test tells in advance.
  unfold packed
  cases free : isFree code with
  | true => rw [(outside_of_isFree free).1, cond_true]
  | false => rw [row?_eq, cond_false]

/-- The codes of a row are read in front of those known before. -/
theorem go_eq_append (count row : Nat) (codes : List Nat) :
    rowCodes.go count row codes = rowCodes.go count row [] ++ codes := by
  -- The last field of a row is read first, and stands behind those that are read later.
  induction count generalizing row codes with
  | zero => rfl
  | succ count ih =>
    rw [rowCodes.go, rowCodes.go]
    split
    · rfl
    · rw [ih, ih _ [row % 0x100000], List.append_assoc]
      rfl

/-- The codes of a small row are read in fewer steps as well. -/
theorem go_succ {count row : Nat} (small : row < 0x100000 ^ count) (codes : List Nat) :
    rowCodes.go (count + 1) row codes = rowCodes.go count row codes := by
  -- A step shortens the row by a field, so the bound shrinks with the steps that are left.
  induction count generalizing row codes with
  | zero =>
    have empty : row = 0 := by omega
    simp [rowCodes.go, empty]
  | succ count ih =>
    rw [rowCodes.go]
    conv => rhs; rw [rowCodes.go]
    split
    · rfl
    · refine ih (Nat.div_lt_of_lt_mul ?_) _
      rwa [Nat.pow_succ, Nat.mul_comm] at small

/-- One more field at the end of a row is one more code. -/
theorem rowCodes_append {row code : Nat} (positive : 0 < row) (small : row ≤ 0x1000000000000000)
    (field : code < 0x100000) : rowCodes (row * 0x100000 + code) = rowCodes row ++ [code] := by
  -- The first step reads the new field, and the others read the row as before.
  have nonzero : ¬ row * 0x100000 + code = 0 := by omega
  have front : (row * 0x100000 + code) / 0x100000 = row := by omega
  have last : (row * 0x100000 + code) % 0x100000 = code := by omega
  have fits : row < 0x100000 ^ 19 := Nat.lt_of_le_of_lt small (by decide)
  rw [rowCodes, rowCodes.go, if_neg nonzero, front, last, go_eq_append, rowCodes, go_succ fits]

/-- A code by itself is a row with one code. -/
theorem rowCodes_single {code : Nat} (positive : 0 < code) (field : code < 0x100000) :
    rowCodes code = [code] := by
  -- Behind the one field of the row there is nothing left.
  have nonzero : ¬ code = 0 := by omega
  have front : code / 0x100000 = 0 := by omega
  have last : code % 0x100000 = code := by omega
  rw [rowCodes, rowCodes.go, if_neg nonzero, front, last, rowCodes.go, if_pos rfl]

/-- A listed character decomposes into the codes that are packed for it. -/
theorem decompose_eq_packed {c : Char} (listed : isListed c.toNat = true) :
    decompose c = (rowCodes (packed c.toNat)).map Char.ofNat := by
  -- A listed code is no syllable, so the table alone says how it decomposes.
  obtain ⟨positive, outside, small⟩ := isListed_iff.mp listed
  have noSyllable : ¬ (hangulSyllables.1 ≤ c.toNat ∧ c.toNat < hangulSyllables.1 + hangulSyllables.2) := by
    simp only [hangulSyllables]
    omega
  rw [packed_eq]
  cases found : decompositionRow? c.toNat with
  | none => simp [decompose, noSyllable, decomposition?, found, rowCodes_single positive small]
  | some row => simp [decompose, noSyllable, decomposition?, found]

/-- A pair that composes by some rows has a row among them. -/
theorem mem_of_composition? {rows : List Nat} {first second code : Nat}
    (composed : composition? rows first second = some code) :
    ∃ row ∈ rows, row / 0x10000000000 = first ∧ row / 0x100000 % 0x100000 = second ∧
      row % 0x100000 = code := by
  -- The first row that has the pair gives the code.
  induction rows with
  | nil => cases composed
  | cons row rest ih =>
    rw [composition?] at composed
    split at composed
    · rename_i pair
      exact ⟨row, by simp, pair.1, pair.2, Option.some.inj composed⟩
    · obtain ⟨other, member, fields⟩ := ih composed
      exact ⟨other, by simp [member], fields⟩

/-- What composes by the table decomposes again. -/
theorem decompose_of_composition? {first second : Char} {code : Nat}
    (composed : composition? compositionRows first.toNat second.toNat = some code) :
    decompose (Char.ofNat code) = decompose first ++ [second] := by
  -- The row was checked: what is packed for its result is what is packed for its first part, and the second.
  obtain ⟨row, member, isFirst, isSecond, isJoined⟩ := mem_of_composition? composed
  have undone := List.all_eq_true.mp isUndone_compositionRows row member
  simp only [isUndone, isFirst, isSecond, isJoined, Bool.and_eq_true] at undone
  obtain ⟨⟨⟨⟨listed, listedResult⟩, positive⟩, small⟩, same⟩ := undone
  obtain ⟨_, outside, fits⟩ := isListed_iff.mp listedResult
  have result : (Char.ofNat code).toNat = code := toNat_ofNat (by omega) (by omega)
  have field : second.toNat < 0x100000 := by omega
  rw [decompose_eq_packed (by rwa [result]), result, Nat.eq_of_beq_eq_true same, decompose_eq_packed listed,
    rowCodes_append (Nat.le_of_ble_eq_true positive) (Nat.le_of_ble_eq_true small) field, List.map_append]
  simp

/-- A Hangul syllable decomposes into its jamo. -/
theorem decompose_syllable {place : Nat} (small : place < 11172) :
    decompose (Char.ofNat (0xAC00 + place)) = (hangulParts place).map Char.ofNat := by
  -- The place of a syllable is counted from the first one.
  have code : (Char.ofNat (0xAC00 + place)).toNat = 0xAC00 + place := toNat_ofNat (by omega) (by omega)
  have syllable : hangulSyllables.1 ≤ 0xAC00 + place ∧
      0xAC00 + place < hangulSyllables.1 + hangulSyllables.2 := by
    simp only [hangulSyllables]
    omega
  simp only [decompose, code, if_pos syllable]
  simp [hangulSyllables]

/-- A leading consonant and a vowel make the syllable that decomposes into them. -/
theorem decompose_leading_vowel {first second : Char} (low : 0x1100 ≤ first.toNat)
    (high : first.toNat < 0x1113) (lowVowel : 0x1161 ≤ second.toNat) (highVowel : second.toNat < 0x1176) :
    decompose (Char.ofNat (0xAC00 + ((first.toNat - 0x1100) * 21 + (second.toNat - 0x1161)) * 28)) =
      decompose first ++ [second] := by
  have plain : decompose first = [first] := isPlain_of_isFree (isFree_of_jamo low (by omega))
  -- The place of the syllable is divided into those of its consonant and its vowel again.
  have bound : ((first.toNat - 0x1100) * 21 + (second.toNat - 0x1161)) * 28 < 11172 := by omega
  have consonant : 0x1100 + ((first.toNat - 0x1100) * 21 + (second.toNat - 0x1161)) * 28 / 588 =
      first.toNat := by omega
  have vowel : 0x1161 + ((first.toNat - 0x1100) * 21 + (second.toNat - 0x1161)) * 28 % 588 / 28 =
      second.toNat := by omega
  have noEnding : ((first.toNat - 0x1100) * 21 + (second.toNat - 0x1161)) * 28 % 28 = 0 := by omega
  rw [decompose_syllable bound, plain]
  simp [hangulParts, consonant, vowel, noEnding]

/-- A syllable without an ending and an ending make the syllable that decomposes into them. -/
theorem decompose_syllable_ending {first second : Char} (low : 0xAC00 ≤ first.toNat)
    (high : first.toNat < 0xAC00 + 11172) (ended : (first.toNat - 0xAC00) % 28 = 0)
    (lowEnding : 0x11A8 ≤ second.toNat) (highEnding : second.toNat < 0x11C3) :
    decompose (Char.ofNat (first.toNat + (second.toNat - 0x11A7))) = decompose first ++ [second] := by
  -- Both characters are named by their distances from the first ones of their kind.
  obtain ⟨place, same⟩ : ∃ place, first.toNat = 0xAC00 + place := ⟨first.toNat - 0xAC00, by omega⟩
  obtain ⟨ending, sameEnding⟩ : ∃ ending, second.toNat = 0x11A7 + ending := ⟨second.toNat - 0x11A7, by omega⟩
  rw [same, Nat.add_sub_cancel_left] at ended
  have whole : first = Char.ofNat (0xAC00 + place) := by rw [← same, Char.ofNat_toNat]
  have last : second = Char.ofNat (0x11A7 + ending) := by rw [← sameEnding, Char.ofNat_toNat]
  have code : first.toNat + (second.toNat - 0x11A7) = 0xAC00 + (place + ending) := by omega
  -- The ending changes neither the consonant nor the vowel.
  have consonant : (place + ending) / 588 = place / 588 := by omega
  have vowel : (place + ending) % 588 / 28 = place % 588 / 28 := by omega
  have added : (place + ending) % 28 = ending := by omega
  have nonzero : ending ≠ 0 := by omega
  rw [code, decompose_syllable (by omega), whole, decompose_syllable (by omega), last]
  simp [hangulParts, consonant, vowel, added, ended, nonzero]

/-- A composed character decomposes like its first part with the second part behind it. -/
theorem decompose_of_compose? {first second joined : Char}
    (composed : compose? first second = some joined) :
    decompose joined = decompose first ++ [second] := by
  -- A pair composes as two jamo, as a syllable and its ending, or by a row of the table.
  unfold compose? at composed
  dsimp only at composed
  split at composed
  · rename_i pair
    rw [← Option.some.inj composed]
    exact decompose_leading_vowel pair.1 pair.2.1 pair.2.2.1 pair.2.2.2
  · split at composed
    · rename_i pair
      rw [← Option.some.inj composed]
      exact decompose_syllable_ending pair.1 pair.2.1 pair.2.2.1 pair.2.2.2.1 pair.2.2.2.2
    · -- A row of the table tells the character by its code.
      obtain ⟨code, found, rfl⟩ := Option.map_eq_some_iff.mp composed
      exact decompose_of_composition? found

end AssetCatalog.Unicode
