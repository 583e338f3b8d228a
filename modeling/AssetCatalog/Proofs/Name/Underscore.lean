import AssetCatalog.Proofs.Name.Shape
import AssetCatalog.Proofs.Unicode.Ascii
import AssetCatalog.Proofs.Unicode.Case

/-! Underscores in identifiers of file names: no letter or digit brings one along, so one stands in front at most. -/

set_option maxRecDepth 20000

namespace AssetCatalog

namespace Unicode

/-- The signs whose normal forms have underscores, the underscore itself among them. -/
def underscoreSigns : List Nat :=
  [0x005F, 0xFE33, 0xFE34, 0xFE4D, 0xFE4E, 0xFE4F, 0xFF3F]

/-- No pair composes to an underscore. -/
theorem compose?_ne_underscore (first second : Char) : compose? first second ≠ some '_' := by
  -- The second of the pair would be the underscore, into which alone it decomposes, and that joins nothing.
  intro composed
  have plain : decompose '_' = ['_'] := isPlain_of_ascii (by decide)
  have parts := decompose_of_compose? composed
  rw [plain] at parts
  have last : second = '_' := by
    simpa using (congrArg List.getLast? parts).symm
  rw [last, compose?_of_ascii first (by decide)] at composed
  cases composed

section Composing

variable {sign : Char}

/-- A sign that no pair makes was there before the text behind a starter was composed. -/
theorem mem_of_mem_composeAfter (never : ∀ first second, compose? first second ≠ some sign) (rest : Text) :
    ∀ {starter : Char} {passed : Text}, sign ∈ composeAfter starter passed rest →
      sign = starter ∨ sign ∈ passed ∨ sign ∈ rest := by
  induction rest with
  | nil =>
    intro starter passed member
    simpa [composeAfter] using member
  | cons c rest ih =>
    intro starter passed member
    rw [composeAfter_cons] at member
    split at member
    next joined joins =>
      -- The joined character takes the place of the starter, and is not the sign.
      have other : sign ≠ joined := fun same => never starter c (same ▸ (lower_of_joins joins).1)
      rcases ih member with same | before | after
      · exact absurd same other
      · exact .inr (.inl before)
      · exact .inr (.inr (List.mem_cons_of_mem c after))
    next =>
      split at member
      · -- A new starter leaves what is before it as it is.
        rcases List.mem_append.mp member with before | after
        · rcases List.mem_cons.mp before with same | before
          · exact .inl same
          · exact .inr (.inl (List.mem_reverse.mp before))
        · rcases ih after with same | none | later
          · exact .inr (.inr (same ▸ List.mem_cons_self))
          · cases none
          · exact .inr (.inr (List.mem_cons_of_mem c later))
      · -- Any other character waits among those that were passed.
        rcases ih member with same | before | after
        · exact .inl same
        · rcases List.mem_cons.mp before with same | before
          · exact .inr (.inr (same ▸ List.mem_cons_self))
          · exact .inr (.inl before)
        · exact .inr (.inr (List.mem_cons_of_mem c after))

/-- A sign that no pair makes was there before the text was composed. -/
theorem mem_of_mem_composeAll (never : ∀ first second, compose? first second ≠ some sign) {text : Text}
    (member : sign ∈ composeAll text) : sign ∈ text := by
  -- Composition starts at a starter, and what is in front of the first one stays as it is.
  induction text with
  | nil => exact member
  | cons c rest ih =>
    rw [composeAll] at member
    split at member
    · simpa using mem_of_mem_composeAfter never rest member
    · rcases List.mem_cons.mp member with rfl | later
      · exact List.mem_cons_self
      · exact List.mem_cons_of_mem c (ih later)

end Composing

/-- An underscore in the normal form of a text comes from the decomposition of one of its characters. -/
theorem exists_of_underscore_mem_nfkc {text : Text} (member : '_' ∈ nfkc text) :
    ∃ c ∈ text, '_' ∈ decompose c := by
  -- Composition makes no underscore, and the marks are only put in order.
  have decomposed := mem_of_mem_composeAll compose?_ne_underscore member
  exact List.mem_flatMap.mp ((orderMarks_perm _).mem_iff.mp decomposed)

/-- Only the listed signs decompose into underscores. -/
theorem toNat_mem_underscoreSigns {c : Char} (member : '_' ∈ decompose c) : c.toNat ∈ underscoreSigns := by
  -- All rows of the table are looked at; the parts of a syllable are jamo.
  have checked : (decompositionPages.all fun page => page.2.all fun row =>
      !(rowCodes (row / 0x100000)).contains 0x5F || underscoreSigns.contains (row % 0x100000)) = true := by
    decide +kernel
  obtain ⟨place, small, -, parts⟩ | plain | ⟨row, listed, own, parts⟩ := decompose_cases c
  · rw [parts] at member
    -- The code of an underscore is below those of jamo.
    obtain ⟨code, isPart, made⟩ := List.mem_map.mp member
    have number : code = 0x5F := eq_toNat_of_ofNat (by decide) made
    obtain ⟨low, _⟩ := mem_hangulParts small isPart
    omega
  · obtain rfl : '_' = c := List.mem_singleton.mp (plain ▸ member)
    decide
  · rw [parts] at member
    obtain ⟨code, isPart, made⟩ := List.mem_map.mp member
    have number : code = 0x5F := eq_toNat_of_ofNat (by decide) made
    have sign := listed.of_all checked
    simpa [number ▸ isPart, own] using sign

end Unicode

namespace Name

open Unicode (underscoreSigns isIdentifier nfkc)

/-- None of the signs that have underscores in their normal forms is kept in an identifier. -/
theorem isKept_of_mem_underscoreSigns {c : Char} (sign : c.toNat ∈ underscoreSigns) : isKept c = false := by
  -- The signs are few, and each is looked up.
  have checked : ∀ code ∈ underscoreSigns, isKept (Char.ofNat code) = false := by decide +kernel
  have dropped := checked _ sign
  rwa [Char.ofNat_toNat] at dropped

/-- None of these signs is the capital of a letter. -/
theorem capital_of_mem_underscoreSigns {c : Char} (sign : (capital c).toNat ∈ underscoreSigns) :
    capital c = c := by
  -- The images of all runs lie apart from the signs.
  have apart : ∀ run ∈ Unicode.upperRuns, ∀ code ∈ underscoreSigns,
      code ≠ 0 ∧ (code < run.image ∨ run.image + (run.last - run.first) < code) := by decide +kernel
  rw [capital] at sign ⊢
  split at sign
  next letter single =>
    have image := Unicode.eq_ofNat_of_upper single
    rcases Unicode.mapByRuns_cases Unicode.upperRuns c.toNat with same | ⟨run, member, low, high⟩
    · -- A letter that is mapped by no run is its own capital.
      rw [image, same, Char.ofNat_toNat]
    · obtain ⟨visible, outside⟩ := apart run member _ sign
      have number := Unicode.eq_toNat_of_ofNat visible image.symm
      omega
  · rfl

/-- Each of the joined words' characters was kept, as it was or as a capital. -/
theorem exists_kept_of_mem_joinWords {c : Char} {text : Text} : ∀ {start : Bool}, c ∈ joinWords start text →
    ∃ kept, isKept kept = true ∧ (c = kept ∨ c = capital kept) := by
  -- What separates words or is not kept is passed over, and nothing else changes a character but its capital.
  induction text with
  | nil =>
    intro start member
    cases member
  | cons first rest ih =>
    intro start member
    rw [joinWords] at member
    split at member
    · exact ih member
    · split at member
      next kept =>
        rcases List.mem_cons.mp member with rfl | later
        · refine ⟨first, kept, ?_⟩
          -- At the start of a word the character is a capital, and within it stands as it was.
          cases start with
          | false => exact .inl rfl
          | true => exact .inr rfl
        · exact ih later
      · exact ih member

/-- The normal form of joined words has no underscore. -/
theorem underscore_not_mem_nfkc_joinWords (start : Bool) (text : Text) : '_' ∉ nfkc (joinWords start text) := by
  -- It would come from a sign that is neither kept nor the capital of what is.
  intro member
  obtain ⟨c, joined, decomposed⟩ := Unicode.exists_of_underscore_mem_nfkc member
  have sign := Unicode.toNat_mem_underscoreSigns decomposed
  obtain ⟨kept, isLetter, rfl | rfl⟩ := exists_kept_of_mem_joinWords joined
  · rw [isKept_of_mem_underscoreSigns sign] at isLetter
    cases isLetter
  · rw [capital_of_mem_underscoreSigns sign] at sign
    rw [isKept_of_mem_underscoreSigns sign] at isLetter
    cases isLetter

/-- What is made of words without underscores in their normal form starts with one underscore at most. -/
theorem length_takeWhile_underscore_finish {name : Text} (free : '_' ∉ nfkc name) :
    ((finish name).takeWhile (· == '_')).length ≤ 1 := by
  -- What is legal of the normal form has no underscore at all, so one comes in front of it at most.
  have bare : (legalCharacters name).takeWhile (· == '_') = [] := by
    cases legal : legalCharacters name with
    | nil => rfl
    | cons c rest =>
      have first : c ∈ nfkc name := (List.mem_filter.mp (legal ▸ List.mem_cons_self)).1
      exact List.takeWhile_cons_of_neg (by simpa using fun same : c = '_' => free (same ▸ first))
  have rescued : ((if isIdentifier (legalCharacters name) then legalCharacters name
      else '_' :: legalCharacters name).takeWhile (· == '_')).length ≤ 1 := by
    split <;> simp [bare]
  -- The underscore behind a reserved word is not in front of it, for no such word is empty.
  have reserved : ∀ word ∈ keywords, (word ++ ['_']).takeWhile (· == '_') = [] := by decide
  rw [finish]
  generalize (if isIdentifier (legalCharacters name) then legalCharacters name
    else '_' :: legalCharacters name) = started at rescued ⊢
  split
  next isWord => simp [reserved started (by simpa [isKeyword] using isWord)]
  · exact rescued

/--
The identifier for a file or directory name can be written as a name, whatever the file or directory is called.

It is not empty, is an identifier and no reserved word, has no dot, and starts with one underscore at most.
-/
theorem ofText_isName (text : Text) (stripExtension : Bool) :
    let name := ofText text stripExtension
    name ≠ [] ∧ isIdentifier name = true ∧ isKeyword name = false ∧ '.' ∉ name ∧
      (name.takeWhile (· == '_')).length ≤ 1 := by
  -- The first four parts hold of all identifiers made here; the last one looks at the signs in front.
  refine ⟨ofText_ne_nil _ _, isIdentifier_ofText _ _, isKeyword_ofText _ _, dot_not_mem_ofText _ _, ?_⟩
  exact length_takeWhile_underscore_finish (underscore_not_mem_nfkc_joinWords true _)

end Name

end AssetCatalog
