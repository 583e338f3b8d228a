import AssetCatalog.Project
import AssetCatalog.Proofs.HardcodedPath.Report

/-! The sources that are checked: the warnings about each, and the first one that breaks off the check. -/

namespace AssetCatalog

namespace SourceCheck

variable {environment : Environment} {store : Store} {workingDirectory className path : Text} {warning : Diagnostic}

/-- The source at a path can be read, and is a program. -/
def IsProgram (store : Store) (workingDirectory path : Text) : Prop :=
  ∃ source tree, store.readLines workingDirectory path = .ok source ∧ Source.parse source = .ok tree

/-- What the machine says of the source at a path, if it cannot walk over the tree of that source. -/
def overflow? (environment : Environment) (store : Store) (path : Text) : Option Text :=
  match store.readLines environment.workingDirectory path with
  | .error _ => none
  | .ok source =>
    match Source.parse source with
    | .error _ => none
    | .ok _ => if HardcodedPath.isGenerated source then none else environment.sourceOverflow? source

/-- The warnings about the source at a path. -/
def warnings (environment : Environment) (store : Store) (className path : Text) : List Diagnostic :=
  (checkFile environment store className path).result.toOption.getD []

/-- The check of a file is broken off where the machine cannot walk over the source, and only there. -/
theorem result_checkFile (environment : Environment) (store : Store) (className path : Text) :
    (checkFile environment store className path).result =
      match overflow? environment store path with
      | some message => .error message
      | none => .ok (warnings environment store className path) := by
  rw [warnings, checkFile, overflow?]
  -- A source that cannot be read, or is no program, comes to no walk.
  cases read : store.readLines environment.workingDirectory path with
  | error failure => rfl
  | ok source =>
    dsimp only
    cases inspected : HardcodedPath.inspect path className source with
    | error fault =>
      rw [HardcodedPath.parse_eq_error_of_inspect inspected]
      rfl
    | ok found =>
      -- A generated source is not walked over; another one is, unless the machine cannot.
      obtain ⟨generated, -⟩ | ⟨plain, tree, parsed, -, -⟩ := HardcodedPath.warnings_of_inspect inspected
      · rw [generated]
        cases Source.parse source <;> rfl
      · rw [plain, parsed]
        dsimp only [Bool.false_eq_true, if_false]
        cases environment.sourceOverflow? source <;> rfl

/-- The check of files is broken off by the first one that the machine cannot walk over. -/
theorem result_checkFiles (environment : Environment) (store : Store) (className : Text) (paths : List Text) :
    (checkFiles environment store className paths).result =
      match paths.findSome? (overflow? environment store) with
      | some message => .error message
      | none => .ok (paths.flatMap (warnings environment store className)) := by
  -- The warnings about a file come in front of those about the files behind it.
  induction paths with
  | nil => rfl
  | cons path paths ih =>
    have first := result_checkFile environment store className path
    rw [checkFiles, List.findSome?_cons, List.flatMap_cons]
    cases known : overflow? environment store path with
    | some message =>
      rw [known] at first
      rw [first]
    | none =>
      rw [known] at first
      dsimp only at first ⊢
      -- This file was walked over, so the others decide.
      rw [first, ih]
      cases paths.findSome? (overflow? environment store) <;> rfl

/-- All findings about a source are warnings. -/
theorem severity_of_mem_warnings (found : warning ∈ warnings environment store className path) :
    warning.severity = .warning := by
  -- Only a source that is read and inspected has findings, and these are the strings that are reported.
  rw [warnings, checkFile] at found
  split at found
  · cases found
  · split at found
    · cases found
    next inspected =>
      obtain ⟨-, rfl⟩ | ⟨-, tree, -, -, rfl⟩ := HardcodedPath.warnings_of_inspect inspected
      · split at found <;> cases found
      · split at found
        · cases found
        · -- A finding tells a string to be reported, and as a warning.
          obtain ⟨report, -, rfl⟩ := List.mem_map.mp found
          rfl

/-- A source that cannot be read, or is no program, has no warnings. -/
theorem warnings_of_not_isProgram (other : ¬ IsProgram store environment.workingDirectory path) :
    warnings environment store className path = [] := by
  -- Reading and parsing come first, and either of them ends the check without a warning.
  rw [warnings, checkFile]
  split
  · rfl
  next source read =>
    split
    · rfl
    next inspected =>
      obtain ⟨-, rfl⟩ | ⟨-, tree, parsed, -, -⟩ := HardcodedPath.warnings_of_inspect inspected
      · split <;> rfl
      · exact absurd ⟨source, tree, read, parsed⟩ other

/-- A source that cannot be read, or is no program, does not break off the check. -/
theorem overflow?_of_not_isProgram (other : ¬ IsProgram store environment.workingDirectory path) :
    overflow? environment store path = none := by
  -- Only a source that is read and parsed comes to a walk.
  rw [overflow?]
  split
  · rfl
  next source read =>
    split
    · rfl
    next tree parsed => exact absurd ⟨source, tree, read, parsed⟩ other

/-- A machine that can walk over every source breaks off no check. -/
theorem overflow?_of_roomy (roomy : ∀ source, environment.sourceOverflow? source = none) (path : Text) :
    overflow? environment store path = none := by
  -- Of all the ways to answer, only the last one asks the machine.
  rw [overflow?]
  split
  · rfl
  · split
    · rfl
    · rw [roomy, ite_self]

end SourceCheck

namespace Project

variable {environment : Environment} {store : Store} {settings : Settings} {exclusions : List Exclusion}
  {directory : Text}

/-- The check in a survey goes through the sources of the survey. -/
theorem verdict_survey :
    (Project.survey environment store settings exclusions directory).verdict =
      match (Project.survey environment store settings exclusions directory).checked.findSome?
          (SourceCheck.overflow? environment store) with
      | some message => .error message
      | none => .ok ((Project.survey environment store settings exclusions directory).checked.flatMap
          (SourceCheck.warnings environment store settings.className)) :=
  SourceCheck.result_checkFiles environment store settings.className _

/-- The check of sources was not broken off. -/
def Survey.IsComplete (survey : Survey) : Prop :=
  ∃ warnings, survey.verdict = .ok warnings

/-- The check of sources is complete if none is asked for, or if the machine can walk over every source. -/
theorem isComplete_survey
    (unbroken : settings.checkHardcodedPaths = false ∨ ∀ source, environment.sourceOverflow? source = none) :
    (Project.survey environment store settings exclusions directory).IsComplete := by
  -- Either there are no sources to go through, or none of them is too deep.
  have walked : (Project.survey environment store settings exclusions directory).checked.findSome?
      (SourceCheck.overflow? environment store) = none := by
    rcases unbroken with unchecked | roomy
    · have none : (Project.survey environment store settings exclusions directory).checked = [] := by
        simp only [Project.survey, unchecked]
        rfl
      rw [none]
      rfl
    · exact List.findSome?_eq_none_iff.mpr fun path _ => SourceCheck.overflow?_of_roomy roomy path
  exact ⟨_, by rw [verdict_survey, walked]⟩

end Project

end AssetCatalog
