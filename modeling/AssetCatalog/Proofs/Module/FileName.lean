import AssetCatalog.Keyword
import AssetCatalog.Module.WebPath
import AssetCatalog.Proofs.Unicode.Identifier

/-! The stem of a module's file name is an identifier, and which class names it is a reserved word for. -/

set_option maxRecDepth 20000

namespace AssetCatalog.FileName

open List (Forall₂)
open Unicode (Lowered dottedCapital finalSigma isIdentifier lower lowerLetter)

section Marks

variable {before c d : Char} {text letters rest : Text}

/-- Marking words brings nothing but underscores into a text. -/
theorem mem_markWords (member : d ∈ markWords before text) : d = '_' ∨ d ∈ text := by
  -- What stands at a place is the character there, or an underscore that is put in front of it.
  induction text generalizing before with
  | nil => cases member
  | cons c rest ih =>
    have kept (known : d ∈ c :: markWords c rest) : d = '_' ∨ d ∈ c :: rest := by
      rcases List.mem_cons.mp known with rfl | later
      · exact .inr List.mem_cons_self
      · exact (ih later).imp_right (List.mem_cons_of_mem c)
    rw [markWords] at member
    split at member
    · exact (List.mem_cons.mp member).elim .inl kept
    · exact kept member

/-- An identifier gives the stem of a file name that is an identifier. -/
theorem isIdentifier_snakeCase (identifier : isIdentifier text = true) : isIdentifier (snakeCase text) = true := by
  -- The first character stays in front, and behind it are characters of the identifier and underscores.
  cases text with
  | nil => cases identifier
  | cons c rest =>
    obtain ⟨starts, continues⟩ := Unicode.isIdentifier_cons_iff.mp identifier
    obtain ⟨here, later⟩ := List.forall_mem_cons.mp continues
    refine Text.isIdentifier_lowerCase (Unicode.isIdentifier_cons_iff.mpr ⟨starts, List.forall_mem_cons.mpr ⟨here, ?_⟩⟩)
    intro d member
    rcases mem_markWords member with rfl | known
    · exact Unicode.underscore_word.2
    · exact later d known

/-- No word starts at the first character of a text into which marking words brings no underscore. -/
theorem startsWord_of_unmarked (unmarked : '_' ∉ markWords before (c :: rest)) :
    startsWord before (c :: rest) = false ∧ '_' ∉ markWords c rest := by
  -- Were a word to start there, an underscore would be put in.
  rw [markWords] at unmarked
  split at unmarked
  next => exact absurd List.mem_cons_self unmarked
  next same => exact ⟨Bool.eq_false_iff.mpr same, List.not_mem_of_not_mem_cons unmarked⟩

/-- Marking words leaves a text as it is if it brings no underscore into it. -/
theorem markWords_of_unmarked (unmarked : '_' ∉ markWords before text) : markWords before text = text := by
  -- Where the first character is not marked, nothing is put in front of it.
  induction text generalizing before with
  | nil => rfl
  | cons c rest ih =>
    obtain ⟨inner, further⟩ := startsWord_of_unmarked unmarked
    rw [markWords, inner, ih further]
    rfl

/-- A small letter is no capital. -/
theorem isUpper_of_isLower (small : isLower c = true) : isUpper c = false := by
  -- A small letter is at least 'a', which is greater than 'Z'.
  rw [isLower, Bool.and_eq_true, decide_eq_true_iff, decide_eq_true_iff] at small
  rw [isUpper, Bool.and_eq_false_iff, decide_eq_false_iff_not, decide_eq_false_iff_not]
  refine .inr fun capital => absurd (Char.le_trans small.1 capital) (by decide)

/-- A capital at which no word starts stands behind no small letter, and in front of none if it is behind a capital. -/
theorem small_of_startsWord (upper : isUpper c = true) (inner : startsWord before (c :: rest) = false) :
    isLower before = false ∧ (isUpper before = true → ∀ next ∈ rest.head?, isLower next = false) := by
  -- Only the letter before and the next letter are looked at, so the two shapes of the rest suffice.
  cases rest with
  | nil => simp_all [startsWord]
  | cons next _ => simp_all [startsWord]

/-- Behind a letter, letters in which no word starts are all small, or all capitals behind a capital. -/
theorem allSmall_or_of_unmarked (each : ∀ d ∈ letters, isLower d = true ∨ isUpper d = true)
    (letter : isLower before = true ∨ isUpper before = true) (unmarked : '_' ∉ markWords before (letters ++ rest)) :
    (∀ d ∈ letters, isLower d = true) ∨ isUpper before = true ∧ ∀ d ∈ letters, isUpper d = true := by
  -- The letters behind the first one are known from the induction, and it has to go with these.
  induction letters generalizing before with
  | nil => exact .inl (List.forall_mem_nil _)
  | cons c letters ih =>
    obtain ⟨here, others⟩ := List.forall_mem_cons.mp each
    rw [List.cons_append] at unmarked
    obtain ⟨inner, further⟩ := startsWord_of_unmarked unmarked
    have later := ih others here further
    rcases here with small | capital
    · -- What is behind a small letter is small.
      refine .inl (List.forall_mem_cons.mpr ⟨small, later.resolve_right fun ⟨capital, _⟩ => ?_⟩)
      rw [isUpper_of_isLower small] at capital
      cases capital
    · -- What is in front of a capital is one, and so is what is behind it.
      obtain ⟨front, behind⟩ := small_of_startsWord capital inner
      have alsoCapital : isUpper before = true := letter.resolve_left (by simp [front])
      refine .inr ⟨alsoCapital, List.forall_mem_cons.mpr ⟨capital, ?_⟩⟩
      rcases later with small | ⟨-, capitals⟩
      · cases letters with
        | nil => exact List.forall_mem_nil _
        | cons d _ =>
          have noSmall := behind alsoCapital d rfl
          rw [small d List.mem_cons_self] at noSmall
          cases noSmall
      · exact capitals

end Marks

section Letters

variable {c d : Char}

/-- The sign for the unit kelvin, a capital letter K in lower case. -/
def kelvinSign : Char := Char.ofNat 0x212A

/-- The capital of a small letter of the Latin alphabet. -/
def capital (c : Char) : Char := Char.ofNat (c.toNat - 0x20)

/-- The small letters of the Latin alphabet have the codes from 97 to 122. -/
theorem isLower_iff : isLower c = true ↔ 0x61 ≤ c.toNat ∧ c.toNat ≤ 0x7A := by
  -- The order of characters is that of their codes.
  rw [isLower, Bool.and_eq_true, decide_eq_true_iff, decide_eq_true_iff]
  rfl

/-- The capital of a small letter is a capital letter. -/
theorem isUpper_capital (small : isLower c = true) : isUpper (capital c) = true := by
  -- Small letters and capitals have codes at a distance of 0x20.
  obtain ⟨low, high⟩ := isLower_iff.mp small
  have code : (capital c).toNat = c.toNat - 0x20 := Unicode.toNat_ofNat (by omega) (by omega)
  rw [isUpper, Bool.and_eq_true, decide_eq_true_iff, decide_eq_true_iff]
  constructor
  · change 0x41 ≤ (capital c).toNat
    omega
  · change (capital c).toNat ≤ 0x5A
    omega

/-- The letters that have small letters of the Latin alphabet for their lower-case forms are their capitals, but for the
sign for kelvin and the dotted capital I. -/
theorem checked_lowerRuns : (Unicode.lowerRuns.all fun run => run.places.all fun place =>
    Nat.blt 0x7A (run.image + place) || Nat.beq (run.first + place + 0x20) (run.image + place) ||
      Nat.beq (run.first + place) 0x0130 || Nat.beq (run.first + place) 0x212A && Nat.beq (run.image + place) 0x6B) =
      true := by
  decide

/-- Small Latin letters are lower-case forms of themselves and their capitals, and one is that of the sign for kelvin. -/
theorem cases_of_lowered (dotless : c ≠ dottedCapital) (small : isLower d = true) (lowered : Lowered c d) :
    c = d ∨ c = capital d ∨ c = kelvinSign ∧ d = 'k' := by
  obtain ⟨low, high⟩ := isLower_iff.mp small
  have named {code : Nat} (same : c.toNat = code) : c = Char.ofNat code := same ▸ (Char.ofNat_toNat c).symm
  -- The form is a mapped one, which the table of letters tells, or the sigma at the end of a word.
  rcases lowered with image | ⟨-, rfl⟩
  · have code : Unicode.mapByRuns Unicode.lowerRuns c.toNat = d.toNat :=
      Unicode.eq_toNat_of_ofNat (by omega) image.symm
    rcases Unicode.mapByRuns_eq_or Unicode.lowerRuns c.toNat with same | ⟨run, member, mapped⟩
    · exact .inl (Char.toNat_inj.mp (same.symm.trans code))
    · obtain ⟨place, known, own, imageCode⟩ := Unicode.CaseRun.exists_place mapped
      -- The letters of all runs were checked, and this is one of them at its place.
      have checked := List.all_eq_true.mp (List.all_eq_true.mp checked_lowerRuns run member) place known
      rw [← own, ← imageCode, code] at checked
      simp only [Bool.or_eq_true, Bool.and_eq_true, Nat.beq_eq, Nat.blt_eq] at checked
      rcases checked with ((beyond | distance) | dotted) | ⟨kelvin, letter⟩
      · omega
      · exact .inr (.inl (named (by omega)))
      · exact absurd (named dotted) dotless
      · exact .inr (.inr ⟨named kelvin, Char.toNat_inj.mp letter⟩)
  · exact absurd high (by decide)

/-- A dotted capital leaves its dot in the text in lower case, as a mark. -/
theorem dot_mem_lowerCase {text : Text} (dotted : dottedCapital ∈ text) : Char.ofNat 0x0307 ∈ text.lowerCase := by
  -- All that the form of a character consists of is in the lower-case text, but for the kind of its sigmas.
  have dot : Char.ofNat 0x0307 ∈ (lower dottedCapital).map Text.usualSigma := by decide
  have marks : Char.ofNat 0x0307 ∈ (Unicode.lowerAfter [] text).map Text.usualSigma := by
    rw [Text.map_usualSigma_lowerAfter]
    exact List.mem_flatMap.mpr ⟨dottedCapital, dotted, dot⟩
  obtain ⟨c, member, same⟩ := List.mem_map.mp marks
  rw [Text.usualSigma] at same
  split at same
  · exact absurd same (by decide)
  · exact same ▸ member

end Letters

section Spellings

/-- Whether a letter is a letter of the Latin alphabet or the capital of it. -/
def IsForm (c d : Char) : Prop := c = d ∨ c = capital d

variable {name word : Text}

/-- A member of a list has a partner in a list of partners. -/
theorem exists_of_mem_left {related : Char → Char → Prop} (pairs : Forall₂ related name word) {c : Char}
    (member : c ∈ name) : ∃ d ∈ word, related c d := by
  -- The partner stands at the same position.
  obtain ⟨position, bound, rfl⟩ := List.getElem_of_mem member
  exact ⟨_, List.get_mem _ _, pairs.get bound (pairs.length_eq ▸ bound)⟩

/-- A list is the image of another one if all of its members are those of their partners. -/
theorem eq_map_of_partners {related : Char → Char → Prop} {image : Char → Char} (pairs : Forall₂ related name word)
    (determined : ∀ c ∈ name, ∀ d ∈ word, related c d → c = image d) : name = word.map image := by
  -- Induction on the pairs, each of which determines its first member.
  induction pairs with
  | nil => rfl
  | cons here _ ih =>
    rw [List.map_cons, determined _ List.mem_cons_self _ List.mem_cons_self here, ih fun c member d known =>
      determined c (List.mem_cons_of_mem _ member) d (List.mem_cons_of_mem _ known)]

end Spellings

section Reserved

/-- The reserved words that are written in small letters. -/
def smallKeywords : List Text :=
  keywords.filter (·.all isLower)

/-- A word with a capital letter in front. -/
def titled : Text → Text
  | [] => []
  | c :: rest => capital c :: rest

/-- The spellings of a word of small letters in which no further word starts: the word, with a capital in front, and in
capitals. -/
def spellings (word : Text) : List Text :=
  [word, titled word, word.map capital]

/-- The names that are no reserved words and whose files are named by one. -/
def reservedForms : List Text :=
  -- The sign for kelvin is a capital K, though not one at which a word starts.
  smallKeywords.flatMap (fun word => (spellings word).tail) ++
    (spellings "brea".toList).map (· ++ [kelvinSign])

variable {name word : Text}

/-- A form of a small letter is a letter, the small letter if it is small, and the capital if it is one. -/
theorem IsForm.facts {c d : Char} (form : IsForm c d) (small : isLower d = true) :
    (isLower c = true ∨ isUpper c = true) ∧ (isLower c = true → c = d) ∧ (isUpper c = true → c = capital d) := by
  -- A form is the letter or its capital, and no letter is both small and a capital.
  rcases form with rfl | rfl
  · exact ⟨.inl small, fun _ => rfl, fun upper => absurd upper (by simp [isUpper_of_isLower small])⟩
  · have upper := isUpper_capital small
    exact ⟨.inr upper, fun lower => absurd upper (by simp [isUpper_of_isLower lower]), fun _ => rfl⟩

/-- Letters in which no word starts are one of the spellings of their small letters. -/
theorem mem_spellings (tail : Text) (forms : Forall₂ IsForm name word) (small : ∀ d ∈ word, isLower d = true)
    (unmarked : ∀ c rest, name ++ tail = c :: rest → '_' ∉ markWords c rest) : name ∈ spellings word := by
  -- The letters behind the first one are all small or all capitals, and the first one goes with either.
  cases forms with
  | nil => exact List.mem_cons_self
  | @cons c d letters others first later =>
    obtain ⟨here, behind⟩ := List.forall_mem_cons.mp small
    have kinds : ∀ c ∈ letters, isLower c = true ∨ isUpper c = true := by
      intro c member
      obtain ⟨d, known, form⟩ := exists_of_mem_left later member
      exact (form.facts (behind d known)).1
    -- No word starts within the letters, so they do not change between small and capital.
    rcases allSmall_or_of_unmarked kinds (first.facts here).1 (unmarked c (letters ++ tail) rfl) with
      smalls | ⟨upper, uppers⟩
    · have same : letters = others.map id := eq_map_of_partners later fun c member d known form =>
        (form.facts (behind d known)).2.1 (smalls c member)
      rw [List.map_id] at same
      rcases first with rfl | rfl
      · simp [spellings, same]
      · simp [spellings, titled, same]
    · have same : letters = others.map capital := eq_map_of_partners later fun c member d known form =>
        (form.facts (behind d known)).2.2 (uppers c member)
      simp [spellings, same, (first.facts here).2.2 upper]

/-- What is a reserved word in lower case is made of the forms of small letters, without a dotted capital. -/
theorem small_of_isKeyword {text : Text} (reserved : isKeyword text.lowerCase = true) :
    Forall₂ Lowered text text.lowerCase ∧ dottedCapital ∉ text ∧ ∀ d ∈ text.lowerCase, isLower d = true := by
  have noDot : ∀ word ∈ keywords, Char.ofNat 0x0307 ∉ word := by decide
  -- The capitals in reserved words have lower-case forms of their own, and are those of no other letters.
  have checked : (keywords.all fun word => word.all fun d => isLower d ||
      decide (d.toNat ≠ 0 ∧ d.toNat ≤ 0x5F ∧ lowerLetter d ≠ d ∧ d ≠ finalSigma)) = true := by
    decide
  have member : text.lowerCase ∈ keywords := List.contains_iff_mem.mp reserved
  have dotless : dottedCapital ∉ text := fun dotted => noDot _ member (dot_mem_lowerCase dotted)
  have pairs := Text.forall₂_lowered_lowerCase dotless
  refine ⟨pairs, dotless, fun d known => ?_⟩
  have kind := List.all_eq_true.mp (List.all_eq_true.mp checked _ member) d known
  rw [Bool.or_eq_true, decide_eq_true_iff] at kind
  refine kind.resolve_right ?_
  -- Such a capital would be its own lower-case form.
  rintro ⟨visible, low, changes, other⟩
  obtain ⟨c, -, image | ⟨-, final⟩⟩ := exists_of_mem_left (pairs.flip (R := fun d c => Lowered c d)) known
  · have same := Unicode.eq_of_lowerLetter visible low image.symm
    exact changes (same ▸ image.symm)
  · exact other final

/-- The sign for kelvin is no form of a small letter of the Latin alphabet. -/
theorem not_isForm_kelvinSign {d : Char} (small : isLower d = true) : ¬ IsForm kelvinSign d :=
  fun form => absurd (form.facts small).1 (by decide)

/-- A name with the sign for kelvin that is `break` in lower case ends in the sign. -/
theorem mem_of_kelvinSign
    (forms : Forall₂ (fun c d => IsForm c d ∨ c = kelvinSign ∧ d = 'k') name ("brea".toList ++ ['k']))
    (kelvin : kelvinSign ∈ name) (unmarked : ∀ c rest, name = c :: rest → '_' ∉ markWords c rest) :
    name ∈ (spellings "brea".toList).map (· ++ [kelvinSign]) := by
  have checked : ("brea".toList.all fun d => isLower d && d != 'k') = true := by decide
  have small (d : Char) (known : d ∈ "brea".toList) : isLower d = true ∧ d ≠ 'k' := by
    simpa using List.all_eq_true.mp checked d known
  -- The name consists of four letters and a last one, which has to be the sign.
  obtain ⟨last, _, -, ended, alone⟩ := List.forall₂_cons_right_iff.mp
    (List.forall₂_drop_append name "brea".toList ['k'] forms)
  obtain rfl := List.forall₂_nil_right_iff.mp ended
  have split := List.take_append_drop "brea".toList.length name
  have front := List.forall₂_take_append name "brea".toList ['k'] forms
  rw [alone] at split
  generalize name.take "brea".toList.length = letters at split front
  subst split
  have latin : Forall₂ IsForm letters "brea".toList := List.forall₂_iff_zip.mpr ⟨front.length_eq, fun known =>
    (List.forall₂_zip front known).resolve_right fun ⟨_, same⟩ => (small _ (List.of_mem_zip known).2).2 same⟩
  -- The sign is none of the four letters, as its small letter is not among theirs.
  have sign : last = kelvinSign := by
    rcases List.mem_append.mp kelvin with inside | atEnd
    · obtain ⟨d, known, form⟩ := exists_of_mem_left latin inside
      exact absurd form (not_isForm_kelvinSign (small d known).1)
    · exact (List.mem_singleton.mp atEnd).symm
  subst sign
  exact List.mem_map.mpr ⟨letters, mem_spellings [kelvinSign] latin (fun d known => (small d known).1) unmarked, rfl⟩

/-- Names that a reserved word of small letters is the lower-case form of, and in which no word starts, are the word and
its reserved forms. -/
theorem mem_reservedForms (member : word ∈ keywords) (small : ∀ d ∈ word, isLower d = true)
    (pairs : Forall₂ Lowered name word) (dotless : dottedCapital ∉ name)
    (unmarked : ∀ c rest, name = c :: rest → '_' ∉ markWords c rest) :
    name ∈ smallKeywords ∨ name ∈ reservedForms := by
  have cases {c d : Char} (known : (c, d) ∈ name.zip word) : IsForm c d ∨ c = kelvinSign ∧ d = 'k' := by
    obtain ⟨inName, inWord⟩ := List.of_mem_zip known
    have other : c ≠ dottedCapital := fun same => dotless (same ▸ inName)
    rcases cases_of_lowered other (small d inWord) (List.forall₂_zip pairs known) with same | capital | kelvin
    · exact .inl (.inl same)
    · exact .inl (.inr capital)
    · exact .inr kelvin
  have forms := List.forall₂_iff_zip.mpr ⟨pairs.length_eq, cases⟩
  by_cases kelvin : kelvinSign ∈ name
  · -- Only one reserved word has the letter k, at its end.
    have words : ∀ word ∈ keywords, 'k' ∈ word → word = "brea".toList ++ ['k'] := by decide
    obtain ⟨d, known, form | ⟨-, rfl⟩⟩ := exists_of_mem_left forms kelvin
    · exact absurd form (not_isForm_kelvinSign (small d known))
    · obtain rfl := words word member known
      exact .inr (List.mem_append_right _ (mem_of_kelvinSign forms kelvin unmarked))
  · -- Without the sign for kelvin, all letters are of the Latin alphabet.
    have latin : Forall₂ IsForm name word := List.forall₂_iff_zip.mpr ⟨pairs.length_eq, fun known =>
      (cases known).resolve_right fun ⟨same, _⟩ => kelvin (same ▸ (List.of_mem_zip known).1)⟩
    have inWords : word ∈ smallKeywords := List.mem_filter.mpr ⟨member, List.all_eq_true.mpr small⟩
    have spelled := mem_spellings [] latin small (by simpa using unmarked)
    rcases List.mem_cons.mp spelled with rfl | capitals
    · exact .inl inWords
    · exact .inr (List.mem_append_left _ (List.mem_flatMap.mpr ⟨word, inWords, capitals⟩))

/-- An underscore has no small letter for its lower-case form. -/
theorem underscore_not_mem_of_lowered (pairs : Forall₂ Lowered name word) (small : ∀ d ∈ word, isLower d = true) :
    '_' ∉ name := by
  intro member
  obtain ⟨d, known, lowered⟩ := exists_of_mem_left pairs member
  have image : lowerLetter '_' = '_' := by decide
  -- A lower-case form of an underscore is an underscore, and that is no small letter.
  have letter := small d known
  rcases lowered with rfl | ⟨same, -⟩
  · exact absurd letter (by rw [image]; decide)
  · exact absurd same (by decide)

/-- A class name gives a file whose stem is a reserved word exactly if it is the word or one of the reserved forms. -/
theorem isKeyword_snakeCase_iff : isKeyword (snakeCase name) = true ↔
    name ∈ smallKeywords ∨ name ∈ reservedForms := by
  constructor
  · intro reserved
    -- In the marked name no underscore can be left, so it has not been marked at all.
    cases name with
    | nil => exact absurd reserved (by decide)
    | cons c rest =>
      rw [snakeCase] at reserved
      obtain ⟨pairs, dotless, small⟩ := small_of_isKeyword reserved
      have unmarked : '_' ∉ markWords c rest := fun member =>
        underscore_not_mem_of_lowered pairs small (List.mem_cons_of_mem c member)
      rw [markWords_of_unmarked unmarked] at pairs dotless small reserved
      refine mem_reservedForms (List.contains_iff_mem.mp reserved) small pairs dotless ?_
      rintro _ _ ⟨rfl, rfl⟩
      exact unmarked
  · -- The other way is a fact on finitely many names.
    have checked : ∀ name ∈ smallKeywords ++ reservedForms, isKeyword (snakeCase name) = true := by
      decide +kernel
    exact fun known => checked name (List.mem_append.mpr known)

end Reserved

end AssetCatalog.FileName
