import AssetCatalog.Settings.File

/-! The two modes of a validation agree: the strict one refuses the first fault that the lenient one notes. -/

namespace AssetCatalog.Settings

section Agreement

variable {α β : Type}

/-- How a strict validation ends where a lenient one adds findings to those before: at the first fault. -/
def judge (value : α) (before new : List Finding) : Except Finding (α × List Finding) :=
  match new.find? Finding.isFault with
  | some fault => .error fault
  | none => .ok (value, before ++ new)

/-- A check gives a value and new findings in lenient mode, by which it is judged in strict mode. -/
def Check.Agrees (check : Mode → Check α) : Prop :=
  ∀ before, ∃ value new,
    (check .lenient).run before = .ok (value, before ++ new) ∧ (check .strict).run before = judge value before new

namespace Check

/-- A value is given without findings in both modes. -/
theorem agrees_pure {value : α} : Agrees fun _ => pure value :=
  fun before => ⟨value, [], by rw [List.append_nil]; rfl, by rw [judge, List.append_nil]; rfl⟩

/-- Two checks that agree do so one after the other. -/
theorem Agrees.bind {check : Mode → Check α} {next : Mode → α → Check β} (first : Agrees check)
    (second : ∀ value, Agrees fun mode => next mode value) : Agrees fun mode => check mode >>= next mode := by
  intro before
  obtain ⟨value, new, noted, judged⟩ := first before
  obtain ⟨result, newer, notedAgain, judgedAgain⟩ := second value (before ++ new)
  refine ⟨result, new ++ newer, ?_, ?_⟩
  · rw [StateT.run_bind, noted, ← List.append_assoc]
    exact notedAgain
  · -- A fault of the first check keeps the second one from its turn.
    rw [StateT.run_bind, judged, judge, judge, List.find?_append, ← List.append_assoc]
    cases new.find? Finding.isFault with
    | some fault => rfl
    | none => exact judgedAgain

/-- A finding is noted in lenient mode, and in strict mode unless it is a fault. -/
theorem agrees_report {finding : Finding} : Agrees fun mode => report mode finding := by
  -- In strict mode a fault ends the validation, and anything else is noted as in lenient mode.
  intro before
  refine ⟨(), [finding], rfl, ?_⟩
  rw [judge, List.find?_singleton]
  unfold report
  cases finding.isFault <;> rfl

/-- Checks that agree do so behind a finding. -/
theorem agrees_behind {finding : Finding} {next : Mode → Check β} (rest : Agrees next) :
    Agrees fun mode => report mode finding >>= fun _ => next mode :=
  agrees_report.bind fun _ => rest

end Check

end Agreement

section Fields

variable {field : Text}

open Check (Agrees agrees_pure agrees_behind)

/-- A text is checked alike in both modes. -/
theorem agrees_checkText (fallback : Text) (value : Value) :
    Agrees fun mode => checkText mode field fallback value := by
  -- Only a value of another type is reported.
  unfold checkText
  split
  · exact agrees_pure
  · exact agrees_pure
  · exact agrees_behind agrees_pure

/-- A truth value is checked alike in both modes. -/
theorem agrees_checkFlag (fallback : Bool) (value : Value) :
    Agrees fun mode => checkFlag mode field fallback value := by
  -- Numbers and words that stand for truth values are faults in strict mode, as all others are.
  unfold checkFlag
  split
  · exact agrees_pure
  · exact agrees_pure
  · split <;> exact agrees_behind agrees_pure
  · split <;> exact agrees_behind agrees_pure

/-- The items of a list are checked alike in both modes. -/
theorem agrees_checkItems (items : List Value) :
    ∀ index, Agrees fun mode => checkItems mode field index items := by
  -- A text is taken without a finding, and any other item is a fault, behind which the others are checked.
  induction items with
  | nil => exact fun _ => agrees_pure
  | cons item rest ih =>
    intro index
    cases item with
    | text => exact (ih (index + 1)).bind fun _ => agrees_pure
    | null | bool | int | real | list | dict => exact agrees_behind (ih (index + 1))

/-- Texts are checked alike in both modes. -/
theorem agrees_checkTexts (fallback : List Text) (value : Value) :
    Agrees fun mode => checkTexts mode field fallback value := by
  -- Where nothing is found the modes do the same, and a fault that is found ends only a strict check.
  unfold checkTexts
  split
  · exact agrees_pure
  · exact agrees_behind agrees_pure
  · exact agrees_checkItems _ 0
  · exact agrees_behind agrees_pure

/-- The entries of a dictionary are checked alike in both modes. -/
theorem agrees_checkOverrides (entries : Entries) :
    ∀ flags, Agrees fun mode => checkOverrides mode field flags entries := by
  -- What comes behind a fault is the check of the other entries.
  induction entries with
  | nil => exact fun _ => agrees_pure
  | cons entry rest ih =>
    intro flags
    obtain ⟨key, value⟩ := entry
    cases key with
    | text pattern =>
      unfold checkOverrides
      split
      · exact agrees_behind (ih flags)
      · -- A pattern that is not blank has its flag checked, and the rest goes on with it put.
        exact (agrees_checkFlag true value).bind fun _ => ih _
    | null | bool | int | real | list | dict => exact agrees_behind (ih flags)

/-- Flags are checked alike in both modes. -/
theorem agrees_checkFlags (value : Value) : Agrees fun mode => checkFlags mode field value := by
  -- A dictionary is checked entry by entry, and a value of another type is reported.
  unfold checkFlags
  split
  · exact agrees_pure
  · exact agrees_checkOverrides _ []
  · exact agrees_behind agrees_pure

/-- A class name is checked alike in both modes. -/
theorem agrees_checkClassName (fallback name : Text) :
    Agrees fun mode => checkClassName mode fallback name := by
  -- Only a name that cannot be written is reported.
  unfold checkClassName
  split
  · exact agrees_pure
  · exact agrees_behind agrees_pure

/-- A root directory is checked alike in both modes. -/
theorem agrees_checkRootDirectory (fallback name : Text) :
    Agrees fun mode => checkRootDirectory mode fallback name := by
  -- A cleaned name is worth a notice and is no fault, so it passes in both modes.
  unfold checkRootDirectory
  dsimp only
  split
  · split
    · exact agrees_behind agrees_pure
    · exact agrees_pure
  · exact agrees_behind agrees_pure

end Fields

/-- The entries of settings are checked alike in both modes. -/
theorem agrees_checkEntries (defaults : Settings) (entries : Entries) :
    Check.Agrees fun mode => checkEntries mode defaults entries := by
  unfold checkEntries
  -- The types of the fields are checked one after the other, and then the two names.
  refine (agrees_checkText _ _).bind fun inputPath => ?_
  refine (agrees_checkText _ _).bind fun className => ?_
  refine (agrees_checkText _ _).bind fun pathBase => ?_
  refine (agrees_checkText _ _).bind fun rootDirectory => ?_
  refine (agrees_checkFlag _ _).bind fun flattenExtensions => ?_
  refine (agrees_checkFlag _ _).bind fun checkHardcodedPaths => ?_
  refine (agrees_checkTexts _ _).bind fun excludePatterns => ?_
  refine (agrees_checkFlags _).bind fun flattenOverrides => ?_
  refine (agrees_checkClassName _ _).bind fun className => ?_
  exact (agrees_checkRootDirectory _ _).bind fun rootDirectory => Check.agrees_pure

section Validation

variable (workingDirectory : Text) (config : Value)

/-- A value is judged in strict mode by what is found in lenient mode. -/
theorem exists_validate : ∃ settings found,
    validate .lenient workingDirectory config = .ok (settings, found) ∧
      validate .strict workingDirectory config = judge settings [] found := by
  -- The modes agree on the entries of a dictionary, and no other value has any to check.
  cases config with
  | dict entries => exact agrees_checkEntries (defaults workingDirectory) entries []
  | null | bool | int | real | text | list => exact ⟨_, _, rfl, rfl⟩

/-- A lenient validation refuses nothing, and what it gives are the repaired settings. -/
theorem validate_lenient : validate .lenient workingDirectory config = .ok (repair workingDirectory config) := by
  -- The lenient validation ends with some settings, and a repair takes just these.
  obtain ⟨settings, found, ended, -⟩ := exists_validate workingDirectory config
  rw [repair, ended]

end Validation

section Notices

/-- Notices that a root directory was written with separators around it. -/
def IsCleaningNotice (notice : Text) : Prop :=
  ∃ name cleaned, notice = (Finding.rootDirectoryCleaned name cleaned).notice

/-- A notice tells by its first sign whether there is a fault. -/
theorem head?_notice (finding : Finding) : finding.notice.head? = some 'R' ↔ finding.isFault = false := by
  -- Notices about faults begin with what is invalid, or with the field that was converted.
  have invalid : ("Invalid " : Text).head? = some 'I' := by decide +kernel
  have item : ("Invalid item in '" : Text).head? = some 'I' := by decide +kernel
  have pattern : ("Invalid pattern in '" : Text).head? = some 'I' := by decide +kernel
  have className : ("Invalid class name '" : Text).head? = some 'I' := by decide +kernel
  have rootDirectory : ("Invalid root directory '" : Text).head? = some 'I' := by decide +kernel
  have field : ("Field '" : Text).head? = some 'F' := by decide +kernel
  have cleaned : ("Root directory '" : Text).head? = some 'R' := by decide +kernel
  unfold Finding.notice Finding.refusal Finding.expectation
  -- The one notice that is no fault is that of a root directory that was cleaned.
  cases finding <;>
    simp only [List.head?_append, invalid, item, pattern, className, rootDirectory, field, cleaned,
      Option.some_or, Finding.isFault] <;>
    decide

/-- Of all notices, those about root directories that were cleaned are about no fault. -/
theorem isCleaningNotice_notice_iff (finding : Finding) :
    IsCleaningNotice finding.notice ↔ finding.isFault = false := by
  constructor
  · -- A notice about a cleaned name begins in its own way, as no other one does.
    rintro ⟨name, cleaned, same⟩
    rw [← head?_notice, same, head?_notice]
    rfl
  · intro fine
    cases finding with
    | rootDirectoryCleaned name cleaned => exact ⟨name, cleaned, rfl⟩
    | _ => cases fine

/-- There is a notice about something else exactly if a fault is found. -/
theorem exists_notice_iff {found : List Finding} :
    (∃ notice ∈ found.map Finding.notice, ¬ IsCleaningNotice notice) ↔
      (found.find? Finding.isFault).isSome = true := by
  -- Findings and notices are told apart in the same way, one by one.
  rw [List.find?_isSome]
  constructor
  · rintro ⟨notice, noted, other⟩
    obtain ⟨finding, known, rfl⟩ := List.mem_map.mp noted
    rw [isCleaningNotice_notice_iff, Bool.not_eq_false] at other
    exact ⟨finding, known, other⟩
  · rintro ⟨finding, known, fault⟩
    refine ⟨finding.notice, List.mem_map_of_mem known, ?_⟩
    rw [isCleaningNotice_notice_iff, Bool.not_eq_false]
    exact fault

end Notices

/--
A strict validation and a lenient one agree on every value.

The strict one refuses it exactly if the lenient one has a notice about more than separators around a root directory.
It is refused for the first fault that the lenient one notes, and else both give the same settings and notices.
-/
theorem validate_strict_agrees (workingDirectory : Text) (config : Value) :
    ∃ settings found, validate .lenient workingDirectory config = .ok (settings, found) ∧
      ((∃ fault, validate .strict workingDirectory config = .error fault) ↔
        ∃ notice ∈ found.map Finding.notice, ¬ IsCleaningNotice notice) ∧
      (∀ fault, validate .strict workingDirectory config = .error fault ↔
        found.find? Finding.isFault = some fault) ∧
      ∀ result, validate .strict workingDirectory config = .ok result → result = (settings, found) := by
  obtain ⟨settings, found, ended, judged⟩ := exists_validate workingDirectory config
  refine ⟨settings, found, ended, ?_⟩
  rw [exists_notice_iff, judged, judge]
  -- Either a fault is found, for which the value is refused, or all that is found is given.
  cases found.find? Finding.isFault with
  | some fault => simp
  | none => simp

end AssetCatalog.Settings
