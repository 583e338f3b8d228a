import AssetCatalog.Proofs.Unicode.Case
import AssetCatalog.Proofs.Unicode.Kinds

/-! Letters and their lower-case forms have normal forms that differ by case, letter by letter. -/

set_option maxRecDepth 20000

namespace AssetCatalog.Unicode

/-- How far the letters that a run maps are from its first one. -/
def CaseRun.places (run : CaseRun) : List Nat :=
  (List.range (run.last - run.first + 1)).filter fun place => Nat.beq (place % run.stride) 0

/-- A run maps the letters at its places, each to the one that is as far from the image of the first. -/
theorem CaseRun.exists_place {run : CaseRun} {code image : Nat} (mapped : run.map? code = some image) :
    ∃ place ∈ run.places, code = run.first + place ∧ image = run.image + place := by
  -- The place is the distance from the first code, which is a multiple of the stride.
  obtain ⟨⟨low, high, distance⟩, rfl⟩ := CaseRun.map?_eq_some_iff.mp mapped
  refine ⟨code - run.first, List.mem_filter.mpr ⟨List.mem_range.mpr (by omega), ?_⟩, by omega, rfl⟩
  rw [distance]
  rfl

/-- The codes that some runs map, as the bits of one number. -/
def caseBits (runs : List CaseRun) : Nat :=
  runs.foldr (fun run bits => spanBits (run.places.map fun place => (place, place)) <<< run.first ||| bits) 0

/-- The bits of the codes at the places of the runs are set. -/
theorem testBit_caseBits {runs : List CaseRun} {run : CaseRun} (member : run ∈ runs) {place : Nat}
    (known : place ∈ run.places) : (caseBits runs).testBit (run.first + place) = true := by
  -- Induction on the runs: the bits of one are those of its places, moved to its first code.
  induction runs with
  | nil => cases member
  | cons other rest ih =>
    have step : caseBits (other :: rest) =
        spanBits (other.places.map fun place => (place, place)) <<< other.first ||| caseBits rest := rfl
    rw [step, Nat.testBit_or]
    rcases List.mem_cons.mp member with rfl | later
    · -- The span has a bit at each place of its run.
      have set : (spanBits (run.places.map fun place => (place, place))).testBit place = true := by
        rw [testBit_spanBits, List.any_map]
        exact List.any_eq_true.mpr ⟨place, known, by simp⟩
      rw [Nat.testBit_shiftLeft, Nat.add_sub_cancel_left, set, decide_eq_true (Nat.le_add_right _ _)]
      rfl
    · rw [ih later, Bool.or_true]

/-- Runs keep the codes whose bits are clear. -/
theorem mapByRuns_of_isClear {runs : List CaseRun} {code : Nat} (clear : isClear (caseBits runs) code = true) :
    mapByRuns runs code = code := by
  -- A code that some run maps has its bit set.
  refine (mapByRuns_eq_or runs code).resolve_right fun ⟨run, member, mapped⟩ => ?_
  obtain ⟨place, known, rfl, -⟩ := CaseRun.exists_place mapped
  rw [isClear_eq, testBit_caseBits member known] at clear
  cases clear

/-- Runs that end in front of a code are passed over. -/
theorem mapByRuns_dropWhile {runs : List CaseRun} {start code : Nat} (proper : ∀ run ∈ runs, run.first ≤ run.last)
    (reached : start ≤ code) :
    mapByRuns (runs.dropWhile fun run => Nat.blt run.last start) code = mapByRuns runs code := by
  -- Induction on the runs, of which the first ones may end too early.
  induction runs with
  | nil => rfl
  | cons run rest ih =>
    obtain ⟨here, others⟩ := List.forall_mem_cons.mp proper
    rw [List.dropWhile_cons]
    split
    next passed =>
      -- Such a run does not hold the code, which comes behind its start.
      have before : run.last < start := Nat.blt_eq.mp passed
      have unmapped : run.map? code = none := by
        rw [CaseRun.map?, if_neg (by omega)]
      rw [ih others, mapByRuns, if_neg (by omega), unmapped]
    next => rfl

/-- The codes of letters with a lower-case form, as the bits of one number. -/
@[irreducible] def lowerBits : Nat := caseBits lowerRuns

/-- The codes of letters with an upper-case form, as the bits of one number. -/
@[irreducible] def upperBits : Nat := caseBits upperRuns

/-- Letters that decompose into letters, as far as they have case, without those that have a form of their own width. -/
def ligatures : List (Nat × List Nat) := [
  (0x0132, [0x0049, 0x004A]), (0x0133, [0x0069, 0x006A]), (0x013F, [0x004C, 0x00B7]),
  (0x0140, [0x006C, 0x00B7]), (0x01C4, [0x0044, 0x017D]), (0x01C5, [0x0044, 0x017E]),
  (0x01C6, [0x0064, 0x017E]), (0x01C7, [0x004C, 0x004A]), (0x01C8, [0x004C, 0x006A]),
  (0x01C9, [0x006C, 0x006A]), (0x01CA, [0x004E, 0x004A]), (0x01CB, [0x004E, 0x006A]),
  (0x01CC, [0x006E, 0x006A]), (0x01F1, [0x0044, 0x005A]), (0x01F2, [0x0044, 0x007A]),
  (0x01F3, [0x0064, 0x007A]), (0x03F2, [0x03C2]), (0x03F4, [0x0398]), (0x03F9, [0x03A3]),
  (0x1F71, [0x03AC]), (0x1F73, [0x03AD]), (0x1F75, [0x03AE]), (0x1F77, [0x03AF]), (0x1F79, [0x03CC]),
  (0x1F7B, [0x03CD]), (0x1F7D, [0x03CE]), (0x1FBB, [0x0386]), (0x1FC9, [0x0388]), (0x1FCB, [0x0389]),
  (0x1FDB, [0x038A]), (0x1FEB, [0x038E]), (0x1FF9, [0x038C]), (0x1FFB, [0x038F]), (0x2126, [0x03A9]),
  (0x212A, [0x004B]), (0x212B, [0x00C5])]

/-- The codes of the letters that a letter with case is spelled with in the normal form. -/
def spelling (code : Nat) : List Nat :=
  -- The forms of full width are as far apart as the letters that they are forms of.
  bif Nat.ble 0xFF21 code && Nat.ble code 0xFF5A then [code - 0xFEE0]
  else match ligatures.lookup code with
    | some codes => codes
    | none => [code]

/-- Whether the tables say that a code's character decomposes like the letters that it is spelled with. -/
noncomputable def isSpelled (code : Nat) : Bool :=
  isListed code && !(spelling code).isEmpty && (spelling code).all (fun letter => isListed letter && isApart letter) &&
    rowCodes (packed code) == (spelling code).flatMap fun letter => rowCodes (packed letter)

/-- The character of a code of which the tables say so is spelled with letters that stand apart. -/
theorem spells_of_isSpelled {code : Nat} (spelled : isSpelled code = true) :
    Spells ((spelling code).map Char.ofNat) (Char.ofNat code) := by
  -- The row of the character is the rows of its spelling, one behind the other.
  simp only [isSpelled, Bool.and_eq_true, List.all_eq_true] at spelled
  obtain ⟨⟨⟨listed, filled⟩, letters⟩, same⟩ := spelled
  have own := toNat_ofNat_of_isListed listed
  refine ⟨?_, ?_, ?_⟩
  · simpa using filled
  · rw [decompose_eq_packed (by rwa [own]), own, eq_of_beq same, List.map_flatMap, List.flatMap_map]
    -- The letters are listed as well, so their decompositions are read off the same rows.
    refine List.flatMap_congr fun letter member => ?_
    have code := toNat_ofNat_of_isListed (letters letter member).1
    rw [decompose_eq_packed (by rw [code]; exact (letters letter member).1), code]
  · intro letter member
    obtain ⟨code, known, rfl⟩ := List.mem_map.mp member
    obtain ⟨listed, apart⟩ := letters code known
    exact exists_standsApart (by rwa [toNat_ofNat_of_isListed listed])

/-- The capital letter sigma. -/
def capitalSigma : Char := Char.ofNat 0x03A3

/-- The small letter sigma in its usual form. -/
def smallSigma : Char := Char.ofNat 0x03C3

/-- The small letter sigma in the form that it has at the end of a word. -/
def finalSigma : Char := Char.ofNat 0x03C2

/-- The capital letter sigma in the form of a crescent, which is a sigma of the usual form in the normal form. -/
def lunateSigma : Char := Char.ofNat 0x03F9

/-- The capital letter I with a dot, of which the lower-case form is longer than one character. -/
def dottedCapital : Char := Char.ofNat 0x0130

/--
Whether two characters differ by case at most.

A capital sigma is the twin of both of its small forms where that is allowed for.
Otherwise no sigma that changes its form is among the twins.
-/
inductive Twins (sigma : Prop) : Char → Char → Prop
  /-- A character is its own twin. -/
  | same (c : Char) : Twins sigma c c
  /-- Cased letters are twins that have one lower-case form by themselves. -/
  | letters {c d : Char} : category c = .casedLetter → category d = .casedLetter → lower c = lower d →
    c ≠ capitalSigma → d ≠ capitalSigma → Twins sigma c d
  /-- A capital sigma is the twin of a small one. -/
  | sigma {c : Char} : sigma → c = smallSigma ∨ c = finalSigma → Twins sigma capitalSigma c

/-- Whether two characters are one, or decompose into letters that are twins. -/
def Paired (sigma : Prop) (c d : Char) : Prop :=
  c = d ∨ ∃ letters others, Spells letters c ∧ Spells others d ∧ List.Forall₂ (Twins sigma) letters others

/-- Whether two codes are those of cased letters, of which the second stays as it is in lower case. -/
def areCased (code other : Nat) : Bool :=
  !isClear casedBits code && !isClear casedBits other && isClear lowerBits other && !Nat.beq code 0x0130 &&
    !Nat.beq code 0x03A3

/-- Whether codes are the same in turn, or those of cased letters and of their lower-case forms. -/
def areTwins : List Nat → List Nat → Bool
  | [], [] => true
  | code :: codes, other :: others =>
    (Nat.beq code other || areCased code other && Nat.beq (mapByRuns lowerRuns code) other) && areTwins codes others
  | _, _ => false

/-- Whether the characters of two codes are spelled with twins. -/
noncomputable def areSpelledAlike (code other : Nat) : Bool :=
  isSpelled code && isSpelled other && areTwins (spelling code) (spelling other)

/-- Letters whose lower-case forms are told apart from those of all others. -/
def exempt : List Nat :=
  [0x0130, 0x03A3, 0x03F9]

/-- Whether a code is paired with its lower-case form, and its upper-case form with the one of that. -/
noncomputable def isPaired (code image capital : Nat) : Bool :=
  let upper := bif isClear upperBits code then code else mapByRuns upperRuns code
  (isApart code && isApart image && areCased code image || areSpelledAlike code image) &&
    (Nat.beq upper capital || Nat.beq upper code && Nat.beq capital image || areSpelledAlike upper capital)

/-- Whether all letters of a run are paired with their lower-case forms, as far as they are kept in names. -/
noncomputable def pairsRun (run : CaseRun) : Bool :=
  -- The upper-case forms of a run are looked up behind the runs that end in front of it.
  let upper := upperRuns.dropWhile fun other => Nat.blt other.last run.image
  run.places.all fun place => isListed (run.image + place) && isClear lowerBits (run.image + place) &&
    (isClear wordBits (run.first + place) && isClear wordBits (run.image + place) ||
      !isClear wordBits (run.first + place) && !isClear wordBits (run.image + place) &&
        (exempt.any (Nat.beq (run.first + place)) ||
          isPaired (run.first + place) (run.image + place) (mapByRuns upper (run.image + place))))

/-- The forms of sigma are spelled with letters that stand apart. -/
theorem isSpelled_sigmas : [0x03A3, 0x03C3, 0x03C2, 0x03F9, 0x03F2].all isSpelled = true := by
  decide +kernel

/-- All letters with lower-case forms are paired with them, as far as they are kept in names. -/
theorem pairsRun_lowerRuns : lowerRuns.all pairsRun = true := by
  decide +kernel

section Pairs

variable {sigma : Prop} {c d : Char}

/-- A bit that is not clear is set. -/
theorem testBit_of_not_isClear {bits place : Nat} (set : (!isClear bits place) = true) : bits.testBit place = true := by
  rwa [isClear_eq, Bool.not_not] at set

/-- The bit of a letter with another lower-case form is not clear. -/
theorem not_isClear_lowerBits {code : Nat} (changes : mapByRuns lowerRuns code ≠ code) :
    isClear lowerBits code = false := by
  -- With a clear bit the letter would be its own lower-case form.
  refine Bool.eq_false_iff.mpr fun clear => changes ?_
  rw [lowerBits] at clear
  exact mapByRuns_of_isClear clear

/-- A letter that stays as it is in lower case is its own lower-case form. -/
theorem lower_of_isClear (clear : isClear lowerBits c.toNat = true) : lower c = [c] := by
  -- The dotted capital is the one letter whose lower-case form is no single letter.
  have dotless : ¬ c.toNat = 0x0130 := by
    intro same
    rw [same, not_isClear_lowerBits (by decide)] at clear
    cases clear
  rw [lowerBits] at clear
  rw [lower, if_neg dotless, lowerLetter, mapByRuns_of_isClear clear, Char.ofNat_toNat]

/-- A cased letter is the twin of its lower-case form. -/
theorem twins_of_areCased (cased : areCased c.toNat d.toNat = true) (lowered : lowerLetter c = d) :
    Twins sigma c d := by
  simp only [areCased, Bool.and_eq_true] at cased
  obtain ⟨⟨⟨⟨isLetter, alsoLetter⟩, clear⟩, dotless⟩, other⟩ := cased
  have notSigma : ∀ e : Char, (!Nat.beq e.toNat 0x03A3) = true → e ≠ capitalSigma := by
    rintro _ differs rfl
    exact absurd differs (by decide)
  -- Capital sigma has another lower-case form, so its bit is not clear.
  have clearSigma : isClear lowerBits 0x03A3 = false := not_isClear_lowerBits (by decide)
  -- Both have case, one lower-case form, and are no capital sigmas.
  refine .letters ?_ ?_ ?_ (notSigma c other) (notSigma d ?_)
  · exact eq_of_beq ((testBit_casedBits c).symm.trans (testBit_of_not_isClear isLetter))
  · exact eq_of_beq ((testBit_casedBits d).symm.trans (testBit_of_not_isClear alsoLetter))
  · have plain : ¬ c.toNat = 0x0130 := fun same => by
      rw [same] at dotless
      cases dotless
    rw [lower_of_isClear clear, lower, if_neg plain, lowered]
  · refine Bool.not_eq_true' _ ▸ Bool.eq_false_iff.mpr fun same => ?_
    rw [Nat.eq_of_beq_eq_true same, clearSigma] at clear
    cases clear

/-- Codes that are the same in turn or those of letters and their lower-case forms make twins. -/
theorem forall₂_of_areTwins {codes : List Nat} : ∀ {others : List Nat}, areTwins codes others = true →
    (∀ code ∈ codes, isListed code = true) → (∀ code ∈ others, isListed code = true) →
      List.Forall₂ (Twins sigma) (codes.map Char.ofNat) (others.map Char.ofNat) := by
  -- Induction on the codes of both sides, which the test goes through in step.
  induction codes with
  | nil =>
    intro others twins _ _
    cases others with
    | nil => exact .nil
    | cons other others => cases twins
  | cons code codes ih =>
    intro others twins listed alsoListed
    cases others with
    | nil => cases twins
    | cons other others =>
      obtain ⟨here, later⟩ := List.forall_mem_cons.mp listed
      obtain ⟨alsoHere, alsoLater⟩ := List.forall_mem_cons.mp alsoListed
      rw [areTwins, Bool.and_eq_true] at twins
      refine .cons ?_ (ih twins.2 later alsoLater)
      -- The two codes are the same, or the second is that of the lower-case form of the first.
      rcases Bool.or_eq_true _ _ ▸ twins.1 with same | pair
      · exact Nat.eq_of_beq_eq_true same ▸ .same _
      · obtain ⟨cased, lowered⟩ := Bool.and_eq_true _ _ ▸ pair
        refine twins_of_areCased ?_ ?_
        · rwa [toNat_ofNat_of_isListed here, toNat_ofNat_of_isListed alsoHere]
        · rw [lowerLetter, toNat_ofNat_of_isListed here, Nat.eq_of_beq_eq_true lowered]

/-- Characters that are spelled with twins are paired. -/
theorem paired_of_areSpelledAlike {code other : Nat} (alike : areSpelledAlike code other = true) :
    Paired sigma (Char.ofNat code) (Char.ofNat other) := by
  -- Both are spelled by codes of the table, and the spellings are twins.
  simp only [areSpelledAlike, Bool.and_eq_true] at alike
  obtain ⟨⟨spelled, alsoSpelled⟩, twins⟩ := alike
  have listed : ∀ {code}, isSpelled code = true → ∀ letter ∈ spelling code, isListed letter = true := by
    intro code known letter member
    simp only [isSpelled, Bool.and_eq_true, List.all_eq_true] at known
    exact (known.1.2 letter member).1
  exact .inr ⟨_, _, spells_of_isSpelled spelled, spells_of_isSpelled alsoSpelled,
    forall₂_of_areTwins twins (listed spelled) (listed alsoSpelled)⟩

/-- Letters that stand apart are spelled with themselves. -/
theorem spells_of_isApart (apart : isApart c.toNat = true) : Spells [c] c :=
  ⟨List.cons_ne_nil _ _, (List.flatMap_singleton _ _).symm,
    List.forall_mem_singleton.mpr (exists_standsApart apart)⟩

end Pairs

/-- Whether a character has a small letter for its lower-case form in some text. -/
def Lowered (c d : Char) : Prop :=
  -- A capital sigma has another form at the end of a word.
  d = lowerLetter c ∨ c = capitalSigma ∧ d = finalSigma

/-- The upper-case form of a character that has one of one character. -/
def upperLetter (c : Char) : Char :=
  Char.ofNat (mapByRuns upperRuns c.toNat)

section Lowering

variable {c d : Char}

/-- What the tables say of a letter with another lower-case form. -/
theorem checked_of_lowerLetter (changes : lowerLetter c ≠ c) :
    (lowerLetter c).toNat = mapByRuns lowerRuns c.toNat ∧ isClear lowerBits (lowerLetter c).toNat = true ∧
      wordBits.testBit (lowerLetter c).toNat = wordBits.testBit c.toNat ∧
        (wordBits.testBit c.toNat = true → c.toNat ∉ exempt →
          isPaired c.toNat (lowerLetter c).toNat (mapByRuns upperRuns (lowerLetter c).toNat) = true) := by
  -- A letter with another lower-case form is mapped by a run of the table.
  have proper : ∀ run ∈ upperRuns, run.first ≤ run.last := by decide
  rcases mapByRuns_eq_or lowerRuns c.toNat with same | ⟨run, member, mapped⟩
  · rw [lowerLetter, same, Char.ofNat_toNat] at changes
    exact absurd rfl changes
  · obtain ⟨place, known, code, image⟩ := CaseRun.exists_place mapped
    -- The tables were checked at each place of each run, and this is the check at the place of the letter.
    have checked := List.all_eq_true.mp (List.all_eq_true.mp pairsRun_lowerRuns run member) place known
    rw [mapByRuns_dropWhile proper (Nat.le_add_right _ _), ← code, ← image, Bool.and_eq_true, Bool.and_eq_true,
      isClear_eq wordBits, isClear_eq wordBits, Bool.not_not, Bool.not_not] at checked
    obtain ⟨⟨listed, clear⟩, kinds⟩ := checked
    have code : (lowerLetter c).toNat = mapByRuns lowerRuns c.toNat := toNat_ofNat_of_isListed listed
    rw [code]
    refine ⟨rfl, clear, ?_, fun word other => ?_⟩
    · cases here : wordBits.testBit c.toNat <;> simp_all
    · have special : exempt.any (Nat.beq c.toNat) = false := List.any_eq_false.mpr fun code member same =>
        other (Nat.eq_of_beq_eq_true same ▸ member)
      have paired : wordBits.testBit (mapByRuns lowerRuns c.toNat) = true ∧ isPaired c.toNat
          (mapByRuns lowerRuns c.toNat) (mapByRuns upperRuns (mapByRuns lowerRuns c.toNat)) = true := by
        simpa only [word, special, Bool.not_true, Bool.false_and, Bool.false_or, Bool.true_and, Bool.and_eq_true]
          using kinds
      exact paired.2

/-- A character is a letter or digit where its lower-case forms are. -/
theorem word_of_lowered (lowered : Lowered c d) :
    (isLetter d || isDecimalDigit d) = (isLetter c || isDecimalDigit c) := by
  -- The letter is its own form, or the check of the runs tells of both.
  rcases lowered with rfl | ⟨rfl, rfl⟩
  · by_cases changes : lowerLetter c = c
    · rw [changes]
    · rw [← testBit_wordBits, ← testBit_wordBits]
      exact (checked_of_lowerLetter changes).2.2.1
  · decide

/-- Pairs are read off the tables. -/
theorem paired_of_isPaired (lowered : lowerLetter c = d)
    (paired : isPaired c.toNat d.toNat (mapByRuns upperRuns d.toNat) = true) {sigma : Prop} :
    Paired sigma c d ∧ Paired sigma (upperLetter c) (upperLetter d) := by
  rw [isPaired, Bool.and_eq_true] at paired
  obtain ⟨small, capital⟩ := paired
  have here : Paired sigma c d := by
    -- Either both letters stand apart, or they are spelled with twins.
    rcases Bool.or_eq_true _ _ ▸ small with apart | alike
    · rw [Bool.and_eq_true, Bool.and_eq_true] at apart
      exact .inr ⟨_, _, spells_of_isApart apart.1.1, spells_of_isApart apart.1.2,
        .cons (twins_of_areCased apart.2 lowered) .nil⟩
    · rw [← Char.ofNat_toNat c, ← Char.ofNat_toNat d]
      exact paired_of_areSpelledAlike alike
  have upper : (bif isClear upperBits c.toNat then c.toNat else mapByRuns upperRuns c.toNat) =
      mapByRuns upperRuns c.toNat := by
    cases clear : isClear upperBits c.toNat with
    | false => rfl
    | true =>
      rw [upperBits] at clear
      rw [mapByRuns_of_isClear clear]
      rfl
  rw [upper, Bool.or_eq_true, Bool.or_eq_true, Bool.and_eq_true] at capital
  refine ⟨here, ?_⟩
  -- Either the capitals are one, or both letters are their own capitals, or these are spelled alike.
  rcases capital with (same | ⟨kept, alsoKept⟩) | alike
  · exact .inl (congrArg Char.ofNat (Nat.eq_of_beq_eq_true same))
  · rw [upperLetter, upperLetter, Nat.eq_of_beq_eq_true kept, Nat.eq_of_beq_eq_true alsoKept, Char.ofNat_toNat,
      Char.ofNat_toNat]
    exact here
  · exact paired_of_areSpelledAlike alike

/-- Whether the letters and digits of a run have upper-case forms that are letters or digits. -/
noncomputable def keepsWords (run : CaseRun) : Bool :=
  run.places.all fun place =>
    isClear wordBits (run.first + place) || isListed (run.image + place) && !isClear wordBits (run.image + place)

/-- All letters and digits have upper-case forms that are letters or digits. -/
theorem keepsWords_upperRuns : upperRuns.all keepsWords = true := by
  decide +kernel

/-- The upper-case form of a letter or digit is a letter or digit. -/
theorem word_upperLetter (word : (isLetter c || isDecimalDigit c) = true) :
    (isLetter (upperLetter c) || isDecimalDigit (upperLetter c)) = true := by
  -- In a run of upper-case forms, a letter or digit was checked to become one.
  rcases mapByRuns_eq_or upperRuns c.toNat with same | ⟨run, member, mapped⟩
  · rwa [upperLetter, same, Char.ofNat_toNat]
  · obtain ⟨place, known, code, image⟩ := CaseRun.exists_place mapped
    have checked := List.all_eq_true.mp (List.all_eq_true.mp keepsWords_upperRuns run member) place known
    rw [← code, ← image, isClear_eq, testBit_wordBits, word, Bool.not_true, Bool.false_or, Bool.and_eq_true] at checked
    rw [← testBit_wordBits, upperLetter, toNat_ofNat_of_isListed checked.1]
    exact testBit_of_not_isClear checked.2

/-- A form of sigma is spelled with its own spelling. -/
theorem spells_sigma (code : Nat) (known : code ∈ [0x03A3, 0x03C3, 0x03C2, 0x03F9, 0x03F2]) :
    Spells ((spelling code).map Char.ofNat) (Char.ofNat code) :=
  spells_of_isSpelled (List.all_eq_true.mp isSpelled_sigmas code known)

/-- A capital sigma is paired with its small forms where that is allowed for. -/
theorem paired_sigma {sigma : Prop} (allowed : sigma) (small : c = smallSigma ∨ c = finalSigma) :
    Paired sigma capitalSigma c ∧ Paired sigma (upperLetter capitalSigma) (upperLetter c) := by
  -- Each form of the sigma spells itself, and all of them have one capital.
  have capital : Spells [capitalSigma] capitalSigma := spells_sigma 0x03A3 (by decide)
  have form : Spells [c] c ∧ upperLetter capitalSigma = upperLetter c := by
    rcases small with rfl | rfl
    · exact ⟨spells_sigma 0x03C3 (by decide), by decide⟩
    · exact ⟨spells_sigma 0x03C2 (by decide), by decide⟩
  exact ⟨.inr ⟨_, _, capital, form.1, .cons (.sigma allowed small) .nil⟩, .inl form.2⟩

/-- The sigma of crescent form is spelled with a sigma of the usual form, as its small letter is. -/
theorem paired_lunate {sigma : Prop} (allowed : sigma) :
    Paired sigma lunateSigma (Char.ofNat 0x03F2) ∧
      Paired sigma (upperLetter lunateSigma) (upperLetter (Char.ofNat 0x03F2)) := by
  -- The capital letter is spelled with a capital sigma, and the small one with a final sigma.
  have capital : Spells [capitalSigma] lunateSigma := spells_sigma 0x03F9 (by decide)
  have small : Spells [finalSigma] (Char.ofNat 0x03F2) := spells_sigma 0x03F2 (by decide)
  exact ⟨.inr ⟨_, _, capital, small, .cons (.sigma allowed (.inr rfl)) .nil⟩, .inl (by decide)⟩

/-- A letter or digit is paired with its lower-case forms, and its upper-case form with those of these. -/
theorem paired_of_lowered {sigma : Prop} (word : (isLetter c || isDecimalDigit c) = true)
    (dotless : c ≠ dottedCapital) (allowed : c = capitalSigma ∨ c = lunateSigma → sigma)
    (lowered : Lowered c d) : Paired sigma c d ∧ Paired sigma (upperLetter c) (upperLetter d) := by
  -- The runs were checked for pairs but for three letters, each of which is looked at by itself.
  rcases lowered with rfl | ⟨rfl, rfl⟩
  · by_cases changes : lowerLetter c = c
    · rw [changes]
      exact ⟨.inl rfl, .inl rfl⟩
    · obtain ⟨-, -, -, paired⟩ := checked_of_lowerLetter changes
      by_cases special : c.toNat ∈ exempt
      · -- What is exempt is known by its code.
        have named : ∀ code, c.toNat = code → c = Char.ofNat code := by
          rintro _ rfl
          exact (Char.ofNat_toNat c).symm
        simp only [exempt, List.mem_cons, List.not_mem_nil, or_false] at special
        rcases special with dotted | capital | lunate
        · exact absurd (named _ dotted) dotless
        · obtain rfl : c = capitalSigma := named _ capital
          have small : lowerLetter capitalSigma = smallSigma := by decide
          exact paired_sigma (allowed (.inl rfl)) (.inl small)
        · obtain rfl : c = lunateSigma := named _ lunate
          have small : lowerLetter lunateSigma = Char.ofNat 0x03F2 := by decide
          rw [small]
          exact paired_lunate (allowed (.inr rfl))
      · exact paired_of_isPaired rfl (paired ((testBit_wordBits c).trans word) special)
  · exact paired_sigma (allowed (.inl rfl)) (.inr rfl)

end Lowering

end AssetCatalog.Unicode
