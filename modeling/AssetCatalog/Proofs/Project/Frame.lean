import AssetCatalog.Project
import AssetCatalog.Proofs.Store.Document

/-! A run changes its module file only, and this only if it succeeds. -/

namespace AssetCatalog.Project

open Store (MakesWay Publication Stored rooted)

variable {environment : Environment} {store : Store} {settings : Settings} {survey : Survey} {source : Text}

/-- The error of a run whose module could not be written. -/
def writeError (path : Text) (failure : Store.Failure) : Text :=
  "Failed to write generated module " ++ path ++ ": " ++ failure.message

/-- What a run may do to a store, depending on how it ended. -/
structure Confined (environment : Environment) (before : Store) (dryRun : Bool) (ended : Run) : Prop where
  /-- A run without a report leaves the store as it was. -/
  crashed : ∀ {crash}, ended.result = .error crash → ended.store = before
  /-- A run that wrote its module succeeded, was meant to write, and changed nothing else. -/
  written : ∀ {report}, ended.result = .ok report → report.written = true →
    report.ok = true ∧ dryRun = false ∧ ∃ goal, Stored environment.workingDirectory report.outputPath
      (Utf8.encode report.source) before ended.store goal
  /-- Any other run leaves the store as it was, unless its module could not be written behind new directories. -/
  unwritten : ∀ {report}, ended.result = .ok report → report.written = false →
    ended.store = before ∨
      report.ok = false ∧ (∃ failure, report.error = writeError report.outputPath failure) ∧
        MakesWay (Path.parent (Path.absolute environment.workingDirectory report.outputPath)) before ended.store
  /-- After a run that succeeded, was meant to write and emitted a module, the module is in its file. -/
  current : ∀ {report}, ended.result = .ok report → report.ok = true → report.source ≠ [] → dryRun = false →
    ended.store.read (rooted environment.workingDirectory report.outputPath) = .ok (Utf8.encode report.source)

/-- A run with a report is confined, if what its report says is true. -/
theorem Confined.of_report {before : Store} {dryRun : Bool} {report : Report} {records : List Log.Record}
    (written : report.written = true → report.ok = true ∧ dryRun = false ∧
      ∃ goal, Stored environment.workingDirectory report.outputPath (Utf8.encode report.source) before store goal)
    (unwritten : report.written = false → store = before ∨
      report.ok = false ∧ (∃ failure, report.error = writeError report.outputPath failure) ∧
        MakesWay (Path.parent (Path.absolute environment.workingDirectory report.outputPath)) before store)
    (current : report.ok = true → report.source ≠ [] → dryRun = false →
      store.read (rooted environment.workingDirectory report.outputPath) = .ok (Utf8.encode report.source)) :
    Confined environment before dryRun { store, records, result := .ok report } where
  -- The run has this report and no other, and it did not crash.
  crashed crashed := by cases crashed
  written reported := by
    cases reported
    exact written
  unwritten reported := by
    cases reported
    exact unwritten
  current reported := by
    cases reported
    exact current

/-- A run that did not write its module and left the store as it was is confined, if the module is where it belongs. -/
theorem Confined.of_unwritten {dryRun : Bool} {report : Report} {records : List Log.Record}
    (unwritten : report.written = false)
    (current : report.ok = true → report.source ≠ [] → dryRun = false →
      store.read (rooted environment.workingDirectory report.outputPath) = .ok (Utf8.encode report.source)) :
    Confined environment store dryRun { store, records, result := .ok report } := by
  -- Nothing is to be shown of a module that was written.
  refine .of_report (fun wrote => ?_) (fun _ => .inl rfl) current
  rw [unwritten] at wrote
  cases wrote

/-- A run that crashed is confined, if it leaves the store as it was. -/
theorem Confined.of_crashed {dryRun : Bool} {crash : Crash} {records : List Log.Record} :
    Confined environment store dryRun { store, records, result := .error crash } where
  crashed _ := rfl
  written reported := by cases reported
  unwritten reported := by cases reported
  current reported := by cases reported

/-- A module that is emitted is not empty. -/
theorem ne_nil_of_emitted {assets : List Asset.Record} {target : Target} {source : Text}
    (emitted : (generate assets target).outcome = .emitted source) : source ≠ [] := by
  -- Of the three outcomes only one has a text, and this ends in a line feed.
  simp only [generate] at emitted
  split_ifs at emitted
  cases emitted
  simp [Layout.moduleText]

/-- A survey generates the module of the assets that it finds. -/
theorem generation_survey (exclusions : List Exclusion) (inputPath : Text) :
    (Project.survey environment store settings exclusions inputPath).generation =
      generate (Discovery.assets store exclusions settings.rootDirectory settings.flattenExtensions
        settings.flattenOverrides inputPath) settings.target :=
  rfl

/-- What a survey says about the module that was emitted. -/
structure Survey.Emits (survey : Survey) (source : Text) : Prop where
  /-- The module has the text. -/
  emitted : survey.generation.outcome = .emitted source
  /-- The text is not empty. -/
  filled : source ≠ []

/-- The report on an emitted module names its file. -/
theorem Survey.Emits.outputPath_success (emits : survey.Emits source) (dryRun written : Bool) :
    (survey.success settings dryRun written).outputPath = survey.outputPath := by
  simp [Survey.success, Report.success, Generation.source, emits.emitted, emits.filled]

/-- The report on an emitted module holds its text. -/
theorem Survey.Emits.source_success (emits : survey.Emits source) (dryRun written : Bool) :
    (survey.success settings dryRun written).source = source := by
  simp [Survey.success, Report.success, Generation.source, emits.emitted]

/-- Deploying a module is confined. -/
theorem confined_deploy (emits : survey.Emits source) :
    Confined environment store false (deploy environment store settings survey source) := by
  -- There are four ways for the writing to end, and each leads to a report or a crash of its own.
  have published := Store.publication environment.workingDirectory survey.outputPath source store
  rw [deploy]
  generalize (Store.publish environment.workingDirectory survey.outputPath source).run store = ended at published ⊢
  cases published with
  | current held =>
    refine .of_unwritten rfl fun _ _ _ => ?_
    rw [emits.outputPath_success, emits.source_success, held]
  | @written after goal stored =>
    have stored : Stored environment.workingDirectory (survey.success settings false true).outputPath
        (Utf8.encode (survey.success settings false true).source) store after goal := by
      rwa [emits.outputPath_success, emits.source_success]
    exact .of_report (fun _ => ⟨rfl, rfl, goal, stored⟩) (fun unwritten => by cases unwritten)
      fun _ _ _ => stored.read
  | undecodable fault => exact .of_crashed
  | unusable cause culprit way =>
    -- The directories that were made before the failure are all that is left of it.
    exact .of_report (fun wrote => by cases wrote) (fun _ => .inr ⟨rfl, ⟨_, rfl⟩, way⟩)
      fun succeeded => by cases succeeded

/-- To end a run after its survey is confined, whatever the settings are. -/
theorem confined_conclude (dryRun : Bool)
    (filled : ∀ {source}, survey.generation.outcome = .emitted source → source ≠ []) :
    Confined environment store dryRun (conclude environment store settings dryRun survey) := by
  rw [conclude]
  split
  -- Duplicate keys make the run fail, and without files there is nothing to write.
  next => exact .of_unwritten rfl fun succeeded => by cases succeeded
  next nothing =>
    refine .of_unwritten rfl fun _ emitted => absurd ?_ emitted
    simp [Survey.success, Report.success, Generation.source, nothing]
  next source emitted =>
    -- Only a module that was emitted is deployed, and not in a dry run.
    split
    next dry => exact .of_unwritten rfl fun _ _ wet => by rw [dry] at wet; cases wet
    next wet =>
      rw [Bool.not_eq_true] at wet
      exact wet ▸ confined_deploy ⟨emitted, filled emitted⟩

/-- To end a run after its survey is confined as well where the check of sources may have been broken off. -/
theorem confined_close (dryRun : Bool)
    (filled : ∀ {source}, survey.generation.outcome = .emitted source → source ≠ []) :
    Confined environment store dryRun (close environment store settings dryRun survey) := by
  -- A check that was broken off ends the run before it writes.
  rw [close]
  split
  · exact .of_crashed
  · exact confined_conclude dryRun filled

/-- A run with settings that are known to be valid is confined. -/
theorem confined_runWith (settings : Settings) (dryRun : Bool) :
    Confined environment store dryRun (runWith environment store settings dryRun) := by
  -- Without a directory to search, or with settings that cannot be used, the run ends early.
  rw [runWith]
  dsimp only
  split
  · exact .of_crashed
  · split
    · split
      · exact .of_crashed
      next exclusions _ =>
        -- The survey ends the run, and a module that is emitted is not empty.
        refine confined_close dryRun ?_
        intro source emitted
        rw [generation_survey] at emitted
        exact ne_nil_of_emitted emitted
    · exact .of_unwritten rfl fun succeeded => by cases succeeded

/-- A run with any configuration is one with valid settings, but for what it logs first. -/
theorem run_eq_runWith (environment : Environment) (store : Store) (config : Value) (dryRun : Bool) :
    ∃ records, run environment store config dryRun =
      { runWith environment store (Settings.repair environment.workingDirectory config).1 dryRun with records } := by
  -- The run is that of the repaired settings by its definition.
  rw [run]
  exact ⟨_, rfl⟩

/--
A run is confined, whatever the configuration is and however the run ends.

Only a run that succeeded and was meant to write changes the file of its module.
Besides, it makes the directories above that file which are missing, as may a run that fails to write the file.
-/
theorem run_confined (environment : Environment) (store : Store) (config : Value) (dryRun : Bool) :
    Confined environment store dryRun (run environment store config dryRun) := by
  have confined : Confined environment store dryRun (runWith environment store _ dryRun) :=
    confined_runWith (Settings.repair environment.workingDirectory config).1 dryRun
  -- What is logged first changes neither the store nor the report.
  obtain ⟨records, same⟩ := run_eq_runWith environment store config dryRun
  rw [same]
  exact ⟨confined.crashed, confined.written, confined.unwritten, confined.current⟩

end AssetCatalog.Project
