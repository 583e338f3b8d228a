import AssetCatalog.Unicode.Case
import AssetCatalog.Proofs.Unicode.Decomposition

/-! What a change of case can make of a letter, and that separators have no case. -/

namespace AssetCatalog.Unicode

/-- Runs keep a code point, or one of them maps it. -/
theorem mapByRuns_eq_or (runs : List CaseRun) (code : Nat) : mapByRuns runs code = code ∨
    ∃ run ∈ runs, run.map? code = some (mapByRuns runs code) := by
  induction runs with
  | nil => exact .inl rfl
  | cons run rest ih =>
    rw [mapByRuns]
    split
    · exact .inl rfl
    · -- A code point that the first run does not hold is left to the others.
      cases mapped : run.map? code with
      | none => exact ih.imp_right fun ⟨other, member, held⟩ => ⟨other, List.mem_cons_of_mem _ member, held⟩
      | some image => exact .inr ⟨run, List.mem_cons_self, mapped⟩

/-- A run maps the code points at its distances to those at the same distances from its image. -/
theorem CaseRun.map?_eq_some_iff {run : CaseRun} {code image : Nat} : run.map? code = some image ↔
    (run.first ≤ code ∧ code ≤ run.last ∧ (code - run.first) % run.stride = 0) ∧
      run.image + (code - run.first) = image := by
  -- The test of the run is the first half, and the image the second.
  rw [CaseRun.map?]
  split
  next held => simp only [held, Option.some.injEq, true_and]
  next outside => simp only [outside, false_and, reduceCtorEq]

/-- Runs keep a code point, or map it to one between the images of the first and the last letter of a run. -/
theorem mapByRuns_cases (runs : List CaseRun) (code : Nat) : mapByRuns runs code = code ∨
    ∃ run ∈ runs, run.image ≤ mapByRuns runs code ∧
      mapByRuns runs code ≤ run.image + (run.last - run.first) := by
  refine (mapByRuns_eq_or runs code).imp_right fun ⟨run, member, mapped⟩ => ⟨run, member, ?_⟩
  -- A code within the run is moved by its distance from the first letter.
  have ⟨held, image⟩ := CaseRun.map?_eq_some_iff.mp mapped
  omega

/-- Runs whose images are all greater than a bound map no code point to one within it, unless it stays what it is. -/
theorem mapByRuns_eq_self {bound code : Nat} {runs : List CaseRun} (above : ∀ run ∈ runs, bound < run.image)
    (within : mapByRuns runs code ≤ bound) : mapByRuns runs code = code := by
  -- A code that is mapped would be mapped to the image of some run at least.
  rcases mapByRuns_cases runs code with same | ⟨run, member, least, _⟩
  · exact same
  · exact absurd (Nat.lt_of_lt_of_le (above run member) least) (Nat.not_lt.mpr within)

/-- Only its own number makes a character, but for the null character. -/
theorem eq_toNat_of_ofNat {code : Nat} {c : Char} (visible : c.toNat ≠ 0) (made : Char.ofNat code = c) :
    code = c.toNat := by
  by_cases valid : code < 0xD800 ∨ 0xE000 ≤ code ∧ code < 0x110000
  · rw [← made, toNat_ofNat (by omega) (by omega)]
  · -- A number that is that of no character makes the null character.
    have invalid : ¬ code.isValidChar := by
      rw [Nat.isValidChar]
      omega
    rw [Char.ofNat, dif_neg invalid] at made
    exact absurd (congrArg Char.toNat made).symm visible

/-- No number but its own makes a separator. -/
theorem eq_of_ofNat_separator {code : Nat} (made : Char.ofNat code = '/') : code = 0x2F :=
  eq_toNat_of_ofNat (by decide) made

/-- An upper-case form of one character is the image of a letter under the runs. -/
theorem eq_ofNat_of_upper {c capital : Char} (single : upper c = [capital]) :
    capital = Char.ofNat (mapByRuns upperRuns c.toNat) := by
  -- The expansions are longer than one character.
  have longer : ∀ entry ∈ upperExpansions, entry.2.length ≠ 1 := by decide
  rw [upper] at single
  split at single
  next codes found =>
    have listed : (c.toNat, codes) ∈ upperExpansions := by
      obtain ⟨before, after, split, _⟩ := List.lookup_eq_some_iff.mp found
      rw [split]
      simp
    -- An entry of the table would give more than the one character.
    have length := congrArg List.length single
    rw [List.length_map] at length
    exact absurd length (longer _ listed)
  next => exact (List.cons.inj single).1.symm

/-- Signs in front of the small letters are the lower-case letters of no other signs. -/
theorem eq_of_lowerLetter {c sign : Char} (visible : sign.toNat ≠ 0) (low : sign.toNat ≤ 0x5F)
    (lower : lowerLetter c = sign) : c = sign := by
  -- All images of the runs stand behind the sign, so that it is its own.
  have above : ∀ run ∈ lowerRuns, 0x5F < run.image := by decide +kernel
  have image := eq_toNat_of_ofNat visible lower
  have same := mapByRuns_eq_self above (Nat.le_trans (Nat.le_of_eq image) low)
  exact Char.toNat_inj.mp (same.symm.trans image)

/-- Only a separator is compared as one in lower case. -/
theorem eq_of_lowerLetter_separator {c : Char} (lower : lowerLetter c = '/') : c = '/' :=
  eq_of_lowerLetter (by decide) (by decide) lower

/-- Only a separator has a separator for its upper-case form. -/
theorem eq_of_upper_separator {c : Char} (same : upper c = ['/']) : c = '/' := by
  -- All images of the runs stand behind the separator.
  have above : ∀ run ∈ upperRuns, 0x2F < run.image := by decide +kernel
  have image := eq_of_ofNat_separator (eq_ofNat_of_upper same).symm
  have kept := mapByRuns_eq_self above (Nat.le_of_eq image)
  exact Char.toNat_inj.mp (kept.symm.trans image)

/-- A character is the same letter as itself. -/
theorem sameLetter_self (c : Char) : sameLetter c c = true := by
  simp [sameLetter]

/-- Being the same letter goes both ways. -/
theorem sameLetter_comm (a b : Char) : sameLetter a b = sameLetter b a := by
  -- Each of the tests compares the two letters, and comparing goes both ways.
  rw [sameLetter, sameLetter, Bool.beq_comm, Bool.beq_comm (a := lowerLetter a),
    Bool.beq_comm (a := upper (lowerLetter a))]

/-- A separator is the same letter as no other sign. -/
theorem sameLetter_separator {c : Char} (same : sameLetter c '/' = true) : c = '/' := by
  -- Three comparisons make letters the same, and the separator has no other case.
  have lower : lowerLetter '/' = '/' := by decide
  have alone : upper '/' = ['/'] := by decide
  rw [sameLetter, lower, alone, Bool.or_eq_true, Bool.or_eq_true] at same
  rcases same with (equal | lowered) | raised
  · exact eq_of_beq equal
  · exact eq_of_lowerLetter_separator (eq_of_beq lowered)
  · exact eq_of_lowerLetter_separator (eq_of_upper_separator (eq_of_beq raised))

end AssetCatalog.Unicode
