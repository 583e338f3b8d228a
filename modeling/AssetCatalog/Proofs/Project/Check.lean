import AssetCatalog.Proofs.Project.Again
import AssetCatalog.Proofs.Settings.Entries

/-! The check of sources in a run: it adds warnings and nothing else, or a source that is too deep ends the run. -/

namespace AssetCatalog

/-- Entries with another value under a name, where they have that name. -/
def Entries.revalue (name : Text) (value : Value) (entries : Entries) : Entries :=
  entries.map fun entry => if entry.1.sameKey (.text name) then (entry.1, value) else entry

/-- A report with warnings behind its findings, and with the number of the sources that were checked. -/
def Report.checked (count : Nat) (warnings : List Diagnostic) (report : Report) : Report :=
  { report with
    diagnostics := report.diagnostics ++ warnings
    summary := report.summary.revalue "checked_files" (.int count) }

/-- Settings that ask for the check of sources, or not. -/
def Settings.checking (check : Bool) (settings : Settings) : Settings :=
  { settings with checkHardcodedPaths := check }

namespace Project

variable {environment : Environment} {store : Store} {settings : Settings} {dryRun : Bool}
  {plain checked : Survey} {source : Text}

/-- A survey of the same project in which sources were checked besides. -/
structure Survey.Extends (checked plain : Survey) : Prop where
  /-- Both searched the same directory. -/
  inputPath : checked.inputPath = plain.inputPath
  /-- The module belongs to the same place. -/
  outputPath : checked.outputPath = plain.outputPath
  /-- The same was generated. -/
  generation : checked.generation = plain.generation
  /-- No source was checked in the other survey. -/
  unchecked : plain.checked = []
  /-- There are no warnings in the other survey. -/
  unwarned : plain.verdict = .ok []

/-- The findings are the others, and then the warnings. -/
theorem Survey.Extends.diagnostics (more : checked.Extends plain) :
    checked.diagnostics = plain.diagnostics ++ checked.warnings := by
  -- Both generated the same, and the other survey has no warnings.
  have unwarned : plain.warnings = [] := by
    rw [Survey.warnings, more.unwarned]
    rfl
  rw [Survey.diagnostics, Survey.diagnostics, more.generation, unwarned, List.append_nil]

/-- The numbers are the others, but for that of the sources. -/
theorem Survey.Extends.summary (more : checked.Extends plain) :
    checked.summary = plain.summary.revalue "checked_files" (.int checked.checked.length) := by
  -- The numbers come from the generation and the count of sources, and no source was checked in the other survey.
  rw [Survey.summary, Survey.summary, more.generation, more.unchecked]
  rfl

/-- The report of a failure is the other one with the warnings. -/
theorem Survey.Extends.failure (more : checked.Extends plain) (error : Text) :
    checked.failure settings dryRun error =
      (plain.failure settings dryRun error).checked checked.checked.length checked.warnings := by
  -- A failure tells the parts of a survey, each of which is that of the other or its extension.
  rw [Survey.failure, Survey.failure, more.inputPath, more.outputPath, more.diagnostics, more.generation, more.summary]
  rfl

/-- The report of a success is the other one with the warnings. -/
theorem Survey.Extends.success (more : checked.Extends plain) (written : Bool) :
    checked.success settings dryRun written =
      (plain.success settings dryRun written).checked checked.checked.length checked.warnings := by
  -- A success tells the parts of a survey, each of which is that of the other or its extension.
  rw [Survey.success, Survey.success, more.inputPath, more.outputPath, more.diagnostics, more.generation, more.summary]
  rfl

/-- A run ends as another one, but for what the check of sources adds to its report. -/
structure Adds (count : Nat) (warnings : List Diagnostic) (checked plain : Run) : Prop where
  /-- Both leave the same store. -/
  store : checked.store = plain.store
  /-- Both crash alike, or the report is the other one with the warnings. -/
  result : checked.result = plain.result.map (Report.checked count warnings)

/-- A module is written to the same file with the same outcome. -/
theorem Survey.Extends.deploy (more : checked.Extends plain) :
    Adds checked.checked.length checked.warnings (deploy environment store settings checked source)
      (deploy environment store settings plain source) := by
  rw [Project.deploy, Project.deploy, more.outputPath]
  generalize (Store.publish environment.workingDirectory plain.outputPath source).run store = ended
  obtain ⟨result, after⟩ := ended
  -- What happens to the file does not depend on the survey, and the reports differ by what was checked.
  cases result with
  | ok written => exact ⟨rfl, congrArg Except.ok (more.success written)⟩
  | error failure =>
    cases failure with
    | undecodable fault => exact ⟨rfl, rfl⟩
    | unusable cause culprit => exact ⟨rfl, congrArg Except.ok (more.failure _)⟩

/-- A run that checked sources ends as one that did not. -/
theorem Survey.Extends.conclude (more : checked.Extends plain) :
    Adds checked.checked.length checked.warnings (conclude environment store settings dryRun checked)
      (conclude environment store settings dryRun plain) := by
  rw [Project.conclude, Project.conclude, more.generation]
  -- Every way to the end makes its report of the survey, and only one of them touches the store.
  cases plain.generation.outcome with
  | nothing => exact ⟨rfl, congrArg Except.ok (more.success false)⟩
  | blocked duplicates => exact ⟨rfl, congrArg Except.ok (more.failure _)⟩
  | emitted source =>
    cases dryRun with
    | true => exact ⟨rfl, congrArg Except.ok (more.success false)⟩
    | false => exact more.deploy

/-- The sources that a run goes through when it is asked to check them; none where it ends before its survey. -/
def sources (environment : Environment) (store : Store) (settings : Settings) : List Text :=
  match prepare environment settings with
  | .error _ => []
  | .ok exclusions =>
    if Path.asksForNull (Text.stripOr environment.workingDirectory settings.inputPath) then []
    else if store.isDirectory (inputPath environment settings) then
      (Project.survey environment store (settings.checking true) exclusions (inputPath environment settings)).checked
    else []

/-- A survey extends the one that checks no sources. -/
theorem extends_survey (environment : Environment) (store : Store) (settings : Settings)
    (exclusions : List Exclusion) (directory : Text) :
    (Project.survey environment store (settings.checking true) exclusions directory).Extends
      (Project.survey environment store (settings.checking false) exclusions directory) :=
  ⟨rfl, rfl, rfl, rfl, rfl⟩

/-- What it means for a run to check sources: it is broken off by one of them, or it adds their warnings. -/
structure Checks (environment : Environment) (store : Store) (className : Text) (sources : List Text)
    (checked plain : Run) : Prop where
  /-- Where the machine can walk over all sources, the warnings about them are added. -/
  adds : sources.findSome? (SourceCheck.overflow? environment store) = none →
    Adds sources.length (sources.flatMap (SourceCheck.warnings environment store className)) checked plain
  /-- The first source that it cannot walk over ends the run, before anything is written. -/
  breaks : ∀ {message}, sources.findSome? (SourceCheck.overflow? environment store) = some message →
    checked.result = .error (.overflow message) ∧ checked.store = store
  /-- Without the check no source ends the run. -/
  unbroken : ∀ message, plain.result ≠ .error (.overflow message)

/-- Where both runs end alike before any source is looked at, there is nothing that the check could change. -/
theorem checks_none {className : Text} {checked plain : Run} (adds : Adds 0 [] checked plain)
    (unbroken : ∀ message, plain.result ≠ .error (.overflow message)) :
    Checks environment store className [] checked plain where
  adds _ := adds
  breaks broken := by cases broken
  unbroken := unbroken

/-- Only the check of sources ends a run in an overflow. -/
theorem result_conclude_ne_overflow (message : Text) {survey : Survey} :
    (conclude environment store settings dryRun survey).result ≠ .error (.overflow message) := by
  -- The ends of a run are known, and none of them is an overflow.
  intro ended
  obtain ⟨_, same⟩ | ⟨_, _, same⟩ | ⟨_, same, -⟩ :=
    result_conclude_cases environment store settings dryRun survey
  all_goals cases ended.symm.trans same

/-- On its survey, a run checks the sources of that survey. -/
theorem checks_close (exclusions : List Exclusion) (directory : Text) :
    let checked := Project.survey environment store (settings.checking true) exclusions directory
    let plain := Project.survey environment store (settings.checking false) exclusions directory
    Checks environment store settings.className checked.checked
      (close environment store settings dryRun checked) (close environment store settings dryRun plain) := by
  intro checked plain
  have more : checked.Extends plain := extends_survey environment store settings exclusions directory
  have verdict : checked.verdict = _ := verdict_survey
  have complete : plain.IsComplete := ⟨[], more.unwarned⟩
  refine ⟨fun walked => ?_, fun {message} broken => ?_, fun message => ?_⟩
  · -- Both surveys are complete, and the one extends the other by its warnings.
    rw [walked] at verdict
    have warnings : checked.warnings =
        checked.checked.flatMap (SourceCheck.warnings environment store settings.className) := by
      rw [Survey.warnings, verdict]
      rfl
    have adds : Adds checked.checked.length checked.warnings
        (conclude environment store settings dryRun checked) (conclude environment store settings dryRun plain) :=
      more.conclude
    rw [warnings] at adds
    rw [complete.close, Survey.IsComplete.close ⟨_, verdict⟩]
    exact adds
  · -- The verdict is the message of the source at which the walk stopped.
    rw [broken] at verdict
    rw [close, verdict]
    exact ⟨rfl, rfl⟩
  · -- A survey without a check is complete, and ends in no overflow.
    rw [complete.close]
    exact result_conclude_ne_overflow message

/-- A run that does not come to its survey goes through no sources. -/
theorem sources_eq_nil (absent : ∀ exclusions, ¬ Surveys environment store settings exclusions) :
    sources environment store settings = [] := by
  -- All that is asked for on the way to the sources is what a survey needs.
  rw [sources]
  split
  · rfl
  next exclusions prepared =>
    split_ifs with unknown isThere
    · rfl
    · exact absurd ⟨Bool.eq_false_iff.mpr unknown, isThere, prepared⟩ (absent exclusions)
    · rfl

/-- A run that comes to its survey goes through the sources of a survey that checks them. -/
theorem sources_of_surveys {exclusions : List Exclusion} (surveys : Surveys environment store settings exclusions) :
    sources environment store settings = (Project.survey environment store (settings.checking true) exclusions
      (inputPath environment settings)).checked := by
  -- Each test on the way to the sources is one that a survey passes.
  rw [sources, surveys.prepared, surveys.isThere]
  exact if_neg (Bool.eq_false_iff.mp surveys.known)

/-- A run that does not come to its survey ends alike with the check of sources and without it. -/
theorem checks_of_not_surveys {className : Text}
    (absent : ∀ exclusions, ¬ Surveys environment store settings exclusions) :
    Checks environment store className [] (runWith environment store (settings.checking true) dryRun)
      (runWith environment store (settings.checking false) dryRun) := by
  -- The cases are those of the run, in its order; no test in front of the survey depends on the check.
  cases known : Path.asksForNull (Text.stripOr environment.workingDirectory settings.inputPath) with
  | true =>
    have unknown (check : Bool) : Path.asksForNull
        (Text.stripOr environment.workingDirectory (settings.checking check).inputPath) = true := known
    rw [runWith_of_unknown (unknown true), runWith_of_unknown (unknown false)]
    exact checks_none ⟨rfl, rfl⟩ fun message ended => by cases ended
  | false =>
    have known (check : Bool) : Path.asksForNull
        (Text.stripOr environment.workingDirectory (settings.checking check).inputPath) = false := known
    cases isThere : store.isDirectory (inputPath environment settings) with
    | false =>
      have missing (check : Bool) : store.isDirectory (inputPath environment (settings.checking check)) = false :=
        isThere
      rw [runWith_of_missing (known true) (missing true), runWith_of_missing (known false) (missing false)]
      exact checks_none ⟨rfl, rfl⟩ fun message ended => by cases ended
    | true =>
      have there (check : Bool) : store.isDirectory (inputPath environment (settings.checking check)) = true :=
        isThere
      cases prepared : prepare environment settings with
      | error crash =>
        have refused (check : Bool) : prepare environment (settings.checking check) = .error crash := prepared
        rw [runWith_of_crash (known true) (there true) (refused true),
          runWith_of_crash (known false) (there false) (refused false)]
        refine checks_none ⟨rfl, rfl⟩ fun message ended => ?_
        -- Settings that cannot be used crash a run in other ways than an overflow.
        cases ended
        obtain unknown | ⟨fault, limited⟩ := crash_of_prepare prepared
        · cases unknown
        · cases limited
      | ok exclusions => exact absurd ⟨known true, isThere, prepared⟩ (absent exclusions)

/-- With settings that are known to be valid, a run that is asked to check sources does so and nothing else. -/
theorem checks_runWith (environment : Environment) (store : Store) (settings : Settings) (dryRun : Bool) :
    Checks environment store settings.className (sources environment store settings)
      (runWith environment store (settings.checking true) dryRun)
      (runWith environment store (settings.checking false) dryRun) := by
  by_cases surveyed : ∃ exclusions, Surveys environment store settings exclusions
  · -- Both runs come to their surveys, since what these need does not depend on the check.
    obtain ⟨exclusions, surveys⟩ := surveyed
    have both (check : Bool) : Surveys environment store (settings.checking check) exclusions :=
      ⟨surveys.known, surveys.isThere, surveys.prepared⟩
    rw [sources_of_surveys surveys, runWith_eq_close (both true), runWith_eq_close (both false)]
    exact checks_close exclusions (inputPath environment settings)
  · have absent := not_exists.mp surveyed
    rw [sources_eq_nil absent]
    exact checks_of_not_surveys absent

/-- With any configuration, a run that is asked to check sources does so and nothing else. -/
theorem checks_run (environment : Environment) (store : Store) (entries : Entries) (dryRun : Bool) :
    let config (check : Bool) : Value := .dict (entries.put "check_hardcoded_paths" (.bool check))
    let settings := (Settings.repair environment.workingDirectory (config false)).1
    Checks environment store settings.className (sources environment store settings)
      (run environment store (config true) dryRun) (run environment store (config false) dryRun) := by
  intro config settings
  have asked : (Settings.repair environment.workingDirectory (config true)).1 = settings.checking true :=
    Settings.repair_put_checkHardcodedPaths environment.workingDirectory entries false true
  have unasked : settings = settings.checking false :=
    Settings.repair_put_checkHardcodedPaths environment.workingDirectory entries false false
  -- What is logged first does not matter for either run.
  obtain ⟨_, first⟩ := run_eq_runWith environment store (config true) dryRun
  obtain ⟨_, second⟩ := run_eq_runWith environment store (config false) dryRun
  have checks := checks_runWith environment store settings dryRun
  rw [← asked, ← unasked] at checks
  rw [first, second]
  exact ⟨fun walked => ⟨(checks.adds walked).store, (checks.adds walked).result⟩, checks.breaks, checks.unbroken⟩

/--
What the check of sources does to a run.

If the machine can walk over all sources, the run leaves the same store with the check as without, and crashes alike
or reports the same but for the check.
The check adds its warnings behind all findings, and tells how many sources it went through.
The first source that the machine cannot walk over ends the run, which leaves the store as it was.
A source that cannot be read, or is no program, adds no warning and does not end the run.
-/
theorem run_checked (environment : Environment) (store : Store) (entries : Entries) (dryRun : Bool) :
    let config (check : Bool) : Value := .dict (entries.put "check_hardcoded_paths" (.bool check))
    let settings := (Settings.repair environment.workingDirectory (config false)).1
    let warnings := SourceCheck.warnings environment store settings.className
    Checks environment store settings.className (sources environment store settings)
        (run environment store (config true) dryRun) (run environment store (config false) dryRun) ∧
      ∀ path, (∀ warning ∈ warnings path, warning.severity = .warning) ∧
        (¬ SourceCheck.IsProgram store environment.workingDirectory path →
          warnings path = [] ∧ SourceCheck.overflow? environment store path = none) := by
  intro config settings warnings
  refine ⟨checks_run environment store entries dryRun, fun path => ⟨fun _ => SourceCheck.severity_of_mem_warnings, ?_⟩⟩
  -- Neither what cannot be read nor what is no program comes to a walk.
  exact fun other => ⟨SourceCheck.warnings_of_not_isProgram other, SourceCheck.overflow?_of_not_isProgram other⟩

/-- A source of one statement, which adds up 331 numbers. -/
def longSum : Text :=
  "x = 0".toList ++ (List.replicate 330 "+0".toList).flatten

/-- A long sum in a source ends the run that checks sources, where the run that does not writes its module. -/
theorem not_run_checked :
    let environment : Environment := { sourceOverflow? := HardcodedPath.overflowAt 960 }
    let store : Store := ⟨.directory [] [.directory "wwwroot".toList [.file ['a'] []],
      .file "x.py".toList (Utf8.encode longSum)]⟩
    let entries : Entries := [Settings.entry "exclude_patterns" (.list [])]
    let config (check : Bool) : Value := .dict (entries.put "check_hardcoded_paths" (.bool check))
    (run environment store (config false) false).result.toOption.any (fun report => report.written) = true ∧
      (run environment store (config true) false).result =
        .error (.overflow "maximum recursion depth exceeded".toList) := by
  intro environment store entries config
  refine ⟨by decide +kernel, ?_⟩
  -- The source is found and walked over once.
  have broken : (sources environment store (Settings.repair environment.workingDirectory (config false)).1).findSome?
      (SourceCheck.overflow? environment store) = some "maximum recursion depth exceeded".toList := by decide +kernel
  exact ((checks_run environment store entries false).breaks broken).1

end Project

end AssetCatalog
