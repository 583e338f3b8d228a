import AssetCatalog.Proofs.Discovery.Growth
import AssetCatalog.Proofs.Module.ReadBack
import AssetCatalog.Proofs.Project.Frame
import AssetCatalog.Proofs.Project.Sources
import AssetCatalog.Proofs.Settings.Check

/-! A run that follows one which wrote its module: it changes nothing, unless it finds that module as an asset. -/

namespace AssetCatalog.Project

open Discovery (FoundAnew LinksStay)
open Store (Stored rooted)

variable {environment : Environment} {store : Store} {settings : Settings} {survey : Survey} {source : Text}
  {report : Report} {dryRun : Bool}

section Endings

/-- The directory that a run searches. -/
def inputPath (environment : Environment) (settings : Settings) : Text :=
  Path.resolveDirectory environment environment.workingDirectory settings.inputPath

/-- A run ends on its survey in a crash over the old file, in a failure, or in a success for what was emitted. -/
theorem result_conclude_cases (environment : Environment) (store : Store) (settings : Settings) (dryRun : Bool)
    (survey : Survey) :
    (∃ fault, (conclude environment store settings dryRun survey).result = .error (.undecodable fault)) ∨
      (∃ dry message, (conclude environment store settings dryRun survey).result =
        .ok (survey.failure settings dry message)) ∨
      ∃ written, (conclude environment store settings dryRun survey).result =
          .ok (survey.success settings dryRun written) ∧
        (written = true → ∃ source, survey.generation.outcome = .emitted source) := by
  -- Nothing is written without a module that was emitted, and not in a dry run.
  rw [conclude]
  split
  · exact .inr (.inl ⟨dryRun, _, rfl⟩)
  · exact .inr (.inr ⟨false, rfl, fun wrote => absurd wrote Bool.false_ne_true⟩)
  next source emitted =>
    split
    · exact .inr (.inr ⟨false, rfl, fun wrote => absurd wrote Bool.false_ne_true⟩)
    next wet =>
      rw [Bool.not_eq_true] at wet
      rw [deploy]
      split
      next written _ _ => exact .inr (.inr ⟨written, by rw [wet], fun _ => ⟨source, emitted⟩⟩)
      · -- Bytes in the old file that are no text crash the run.
        exact .inl ⟨_, rfl⟩
      · exact .inr (.inl ⟨false, _, rfl⟩)

/-- A run that reports on its survey fails without writing, or succeeds and writes only what was emitted. -/
theorem report_cases (ended : (conclude environment store settings dryRun survey).result = .ok report) :
    (∃ dry message, report = survey.failure settings dry message) ∨
      ∃ written, report = survey.success settings dryRun written ∧
        (written = true → ∃ source, survey.generation.outcome = .emitted source) := by
  -- A crash is no report, so two of the three ends are left.
  obtain ⟨fault, same⟩ | ⟨dry, message, same⟩ | ⟨written, same, emitted⟩ :=
    result_conclude_cases environment store settings dryRun survey
  · cases ended.symm.trans same
  · exact .inl ⟨dry, message, Except.ok.inj (ended.symm.trans same)⟩
  · exact .inr ⟨written, Except.ok.inj (ended.symm.trans same), emitted⟩

/-- A run that succeeds has the text that was generated. -/
theorem source_of_ok (ended : (conclude environment store settings dryRun survey).result = .ok report)
    (succeeded : report.ok = true) : report.source = survey.generation.source := by
  -- A failure does not succeed, so the report is that of a success.
  obtain ⟨dry, message, rfl⟩ | ⟨written, rfl, -⟩ := report_cases ended
  · cases succeeded
  · rfl

/-- A run writes a module only if one is emitted. -/
theorem emitted_of_written (ended : (conclude environment store settings dryRun survey).result = .ok report)
    (wrote : report.written = true) :
    ∃ source, survey.generation.outcome = .emitted source ∧ report = survey.success settings dryRun true := by
  -- A failure writes nothing, and a success writes what was emitted.
  obtain ⟨dry, message, rfl⟩ | ⟨written, rfl, emitted⟩ := report_cases ended
  · cases wrote
  · obtain rfl : written = true := wrote
    obtain ⟨source, emitted⟩ := emitted rfl
    exact ⟨source, emitted, rfl⟩

/-- A run whose module is in its file already writes nothing. -/
theorem conclude_of_held (emits : survey.Emits source)
    (held : store.read (rooted environment.workingDirectory survey.outputPath) = .ok (Utf8.encode source)) :
    (conclude environment store settings false survey).result = .ok (survey.success settings false false) ∧
      (conclude environment store settings false survey).store = store := by
  -- The file holds the very text that is to be written.
  rw [conclude, emits.emitted]
  simp [deploy, Store.run_publish_of_held held]

/-- What a run needs to come to its survey: a directory, and settings that can be used. -/
structure Surveys (environment : Environment) (store : Store) (settings : Settings) (exclusions : List Exclusion) :
    Prop where
  /-- The project directory does not ask for a user who cannot be looked up. -/
  known : Path.asksForNull (Text.stripOr environment.workingDirectory settings.inputPath) = false
  /-- The directory is there. -/
  isThere : store.isDirectory (inputPath environment settings) = true
  /-- The output path can be resolved, and the patterns can be read. -/
  prepared : prepare environment settings = .ok exclusions

/-- Settings that can be used have patterns that can be read. -/
theorem compile_of_prepare {exclusions : List Exclusion} (prepared : prepare environment settings = .ok exclusions) :
    Exclusion.compile environment.patternOverflow? settings.excludePatterns = .ok exclusions := by
  -- Of the two ways in which settings cannot be used, neither is left.
  rw [prepare] at prepared
  split at prepared
  · cases prepared
  · cases compiled : Exclusion.compile environment.patternOverflow? settings.excludePatterns with
    | error fault =>
      rw [compiled] at prepared
      cases prepared
    | ok found =>
      rw [compiled] at prepared
      cases prepared
      rfl

/-- Settings that cannot be used ask for a user who cannot be looked up, or have a pattern beyond the limits. -/
theorem crash_of_prepare {crash : Crash} (prepared : prepare environment settings = .error crash) :
    crash = .nullCharacter ∨ ∃ fault, crash = .pattern fault := by
  -- The output path is looked at first, and then the patterns.
  rw [prepare] at prepared
  split at prepared
  · cases prepared
    exact .inl rfl
  · cases compiled : Exclusion.compile environment.patternOverflow? settings.excludePatterns with
    | error fault =>
      rw [compiled] at prepared
      cases prepared
      -- A pattern beyond the limits ends the compilation with its fault.
      exact .inr ⟨fault, rfl⟩
    | ok exclusions =>
      rw [compiled] at prepared
      cases prepared

/-- A run that comes to its survey ends with it. -/
theorem runWith_eq_close {exclusions : List Exclusion} (surveys : Surveys environment store settings exclusions) :
    runWith environment store settings dryRun = close environment store settings dryRun
      (Project.survey environment store settings exclusions (inputPath environment settings)) := by
  -- All three tests in front of the survey are passed.
  obtain ⟨known, isThere, prepared⟩ := surveys
  rw [inputPath] at isThere
  simp only [runWith, inputPath, known, isThere, prepared]
  rfl

/-- A run for a user who cannot be looked up crashes. -/
theorem runWith_of_unknown
    (unknown : Path.asksForNull (Text.stripOr environment.workingDirectory settings.inputPath) = true) :
    runWith environment store settings dryRun = { store, records := [], result := .error .nullCharacter } := by
  -- The project directory is looked up before anything else is done.
  simp only [runWith, unknown]
  rfl

/-- The error of a run over a directory that is not there. -/
def missingError (directory : Text) : Text :=
  "Invalid input directory: " ++ directory

/-- A run over a directory that is not there fails at once. -/
theorem runWith_of_missing
    (known : Path.asksForNull (Text.stripOr environment.workingDirectory settings.inputPath) = false)
    (missing : store.isDirectory (inputPath environment settings) = false) :
    runWith environment store settings dryRun =
      { store
        records := [record .error (missingError (inputPath environment settings))]
        result := .ok (.failure (missingError (inputPath environment settings)) settings.entries
          (inputPath environment settings) [] [] 0 dryRun []) } := by
  -- Nothing but the directory is looked at before the run gives up.
  rw [inputPath] at missing
  simp only [runWith, known, missing]
  rfl

/-- A run with settings that cannot be used crashes. -/
theorem runWith_of_crash {crash : Crash}
    (known : Path.asksForNull (Text.stripOr environment.workingDirectory settings.inputPath) = false)
    (isThere : store.isDirectory (inputPath environment settings) = true)
    (prepared : prepare environment settings = .error crash) :
    runWith environment store settings dryRun = { store, records := [], result := .error crash } := by
  -- The directory is there, so the run comes as far as its preparation.
  rw [inputPath] at isThere
  simp only [runWith, known, isThere, prepared]
  rfl

/-- A run crashes before its survey, or does not find its directory, or comes to its survey. -/
theorem runWith_cases (environment : Environment) (store : Store) (settings : Settings) (dryRun : Bool) :
    (∃ crash, runWith environment store settings dryRun = { store, records := [], result := .error crash }) ∨
      (runWith environment store settings dryRun).result = .ok (.failure
        (missingError (inputPath environment settings)) settings.entries (inputPath environment settings) [] [] 0
        dryRun []) ∨
      ∃ exclusions, Surveys environment store settings exclusions := by
  -- The cases are those of the run, in its order.
  cases known : Path.asksForNull (Text.stripOr environment.workingDirectory settings.inputPath) with
  | true => exact .inl ⟨_, runWith_of_unknown known⟩
  | false =>
    cases isThere : store.isDirectory (inputPath environment settings) with
    | false => exact .inr (.inl (congrArg Run.result (runWith_of_missing known isThere)))
    | true =>
      cases prepared : prepare environment settings with
      | error crash => exact .inl ⟨_, runWith_of_crash known isThere prepared⟩
      | ok exclusions => exact .inr (.inr ⟨exclusions, known, isThere, prepared⟩)

/-- After a complete survey a run ends as if nothing could break off the check. -/
theorem Survey.IsComplete.close (complete : survey.IsComplete) :
    Project.close environment store settings dryRun survey = conclude environment store settings dryRun survey := by
  -- A complete survey has a verdict, which is all that the end of a run asks for.
  obtain ⟨warnings, verdict⟩ := complete
  rw [Project.close, verdict]

/-- A run has a report only on a complete survey. -/
theorem isComplete_of_close (ended : (close environment store settings dryRun survey).result = .ok report) :
    survey.IsComplete := by
  -- A check that was broken off leaves no report.
  rw [close] at ended
  split at ended
  · cases ended
  next warnings verdict => exact ⟨warnings, verdict⟩

/-- A run that wrote its module came to a survey, which was complete. -/
theorem surveys_of_written (ended : (runWith environment store settings dryRun).result = .ok report)
    (wrote : report.written = true) :
    ∃ exclusions, Surveys environment store settings exclusions ∧
      (Project.survey environment store settings exclusions (inputPath environment settings)).IsComplete := by
  -- Any other run ends before it can write.
  obtain ⟨crash, same⟩ | same | ⟨exclusions, surveys⟩ := runWith_cases environment store settings dryRun
  · rw [same] at ended
    cases ended
  · rw [same] at ended
    cases ended
    cases wrote
  · rw [runWith_eq_close surveys] at ended
    exact ⟨exclusions, surveys, isComplete_of_close ended⟩

/-- A survey writes to the same file, whatever it finds. -/
theorem outputPath_survey (store : Store) (exclusions : List Exclusion) (directory : Text) :
    (Project.survey environment store settings exclusions directory).outputPath =
      Path.resolveOutput environment directory (moduleFileName settings.className) settings.outputPath :=
  rfl

/-- A generation that has a text emitted it. -/
theorem emitted_of_source_eq {generation : Generation} (same : generation.source = source)
    (filled : source ≠ []) : generation.outcome = .emitted source := by
  -- Any other outcome has an empty text.
  rw [Generation.source] at same
  split at same
  next text emitted => rw [emitted, same]
  · exact absurd same.symm filled

end Endings

section Repetition

variable {exclusions : List Exclusion}

/-- A run succeeds with the text of the report before it, writes nothing, and leaves the store as it is. -/
def Repeats (report : Report) (store : Store) (again : Run) : Prop :=
  ∃ later, again.result = .ok later ∧ later.ok = true ∧ later.source = report.source ∧ later.written = false ∧
    again.store = store

/-- What is known of a run that wrote its module. -/
structure Wrote (environment : Environment) (settings : Settings) (exclusions : List Exclusion)
    (before after : Store) (report : Report) : Prop where
  /-- The run came to its survey. -/
  surveys : Surveys environment before settings exclusions
  /-- So does a run that follows. -/
  again : Surveys environment after settings exclusions
  /-- The report has the text that was generated. -/
  source : (Project.survey environment before settings exclusions (inputPath environment settings)).generation.source =
    report.source
  /-- There is such a text. -/
  filled : report.source ≠ []
  /-- The report names the file that was written. -/
  outputPath : report.outputPath = Path.resolveOutput environment (inputPath environment settings)
    (moduleFileName settings.className) settings.outputPath
  /-- The text is in that file, and nothing else has changed but for directories on the way. -/
  stored : ∃ goal, Stored environment.workingDirectory report.outputPath (Utf8.encode report.source) before after goal

/-- A run that wrote its module is known to have done so. -/
theorem wrote_of_written (ended : (runWith environment store settings false).result = .ok report)
    (wrote : report.written = true) : ∃ exclusions,
    Wrote environment settings exclusions store (runWith environment store settings false).store report := by
  -- What was written is known from the frame of the run, and what was generated from how it ended.
  obtain ⟨exclusions, surveys, complete⟩ := surveys_of_written ended wrote
  obtain ⟨-, -, goal, stored⟩ := (confined_runWith settings false).written ended wrote
  have surveyed := ended
  rw [runWith_eq_close surveys, complete.close] at surveyed
  obtain ⟨source, emitted, same⟩ := emitted_of_written surveyed wrote
  have filled : source ≠ [] := ne_nil_of_emitted (generation_survey exclusions _ ▸ emitted)
  have emits : Survey.Emits _ source := ⟨emitted, filled⟩
  have text : report.source = source := by rw [same, emits.source_success]
  -- The directory is still there after the writing, which only makes the tree grow.
  have again := Store.isDirectory_of_grows stored.grown surveys.isThere
  refine ⟨exclusions, surveys, ⟨surveys.known, again, surveys.prepared⟩, ?_, text ▸ filled, ?_, goal, stored⟩
  · rw [text, Generation.source, emitted]
  · rw [same, emits.outputPath_success, outputPath_survey]

/-- A run that follows repeats the one that wrote its module exactly if it completes its check with the same text. -/
theorem Wrote.repeats_iff {after : Store} (wrote : Wrote environment settings exclusions store after report) :
    let survey := Project.survey environment after settings exclusions (inputPath environment settings)
    Repeats report after (runWith environment after settings false) ↔
      survey.IsComplete ∧ survey.generation.source = report.source := by
  intro survey
  rw [runWith_eq_close wrote.again]
  constructor
  -- A report that says success has the text of its own survey.
  · rintro ⟨later, ended, succeeded, same, -, -⟩
    have complete := isComplete_of_close ended
    rw [complete.close] at ended
    exact ⟨complete, by rw [← same, source_of_ok ended succeeded]⟩
  · rintro ⟨complete, same⟩
    -- That text is in the file already, to which both surveys point.
    obtain ⟨goal, stored⟩ := wrote.stored
    have emits : Survey.Emits _ report.source := ⟨emitted_of_source_eq same wrote.filled, wrote.filled⟩
    have held := stored.read
    rw [wrote.outputPath, ← outputPath_survey after exclusions] at held
    obtain ⟨ended, unchanged⟩ := conclude_of_held emits held
    rw [complete.close]
    exact ⟨_, ended, rfl, emits.source_success false false, rfl, unchanged⟩

/-- A run that follows generates the text of the one before exactly if the module is not found as a new asset. -/
theorem Wrote.source_eq_iff_not_foundAnew {after : Store}
    (wrote : Wrote environment settings exclusions store after report)
    (named : Unicode.isIdentifier settings.className = true) (distinct : store.root.Distinct)
    (stay : LinksStay (inputPath environment settings) store after) :
    (Project.survey environment after settings exclusions (inputPath environment settings)).generation.source =
        report.source ↔
      ¬ FoundAnew exclusions settings.rootDirectory (inputPath environment settings)
        (rooted environment.workingDirectory report.outputPath) store after := by
  have source := wrote.source
  rw [generation_survey] at source ⊢
  obtain ⟨goal, stored⟩ := wrote.stored
  obtain ⟨base, first, last, compared⟩ := Discovery.exists_compared stored distinct wrote.surveys.isThere stay
  constructor
  · intro same new
    -- Both texts have a constant for each route, but there is one route more.
    have equal := length_routes_eq_of_source_eq named (source ▸ wrote.filled) (same.trans source.symm)
    exact absurd equal (Nat.ne_of_gt (Discovery.length_routes_lt_of_foundAnew compared stored.led new))
  · -- Without a new asset the routes are the same, and the text with them.
    intro old
    rw [← source]
    exact source_eq_of_routes_eq (Discovery.routes_eq_of_not_foundAnew compared stored.led old)

/--
Whether a run that follows one which wrote its module repeats it is decided by the text that it generates.

The check of sources must not be broken off, as it is only by a source that the machine cannot walk over.
The text is the same unless the module itself is found as a new asset, beneath the asset root and not excluded.
For this, the directories must hold each name once, and no link to a file that is missing may become one to a directory.
-/
theorem repeats_run_iff {environment : Environment} {store : Store} {config : Value} {report : Report}
    (ended : (run environment store config false).result = .ok report) (wrote : report.written = true) :
    let settings := (Settings.repair environment.workingDirectory config).1
    let directory := inputPath environment settings
    let after := (run environment store config false).store
    let again := run environment after config false
    ∃ exclusions, Exclusion.compile environment.patternOverflow? settings.excludePatterns = .ok exclusions ∧
      let survey := Project.survey environment after settings exclusions directory
      (Repeats report after again ↔ survey.IsComplete ∧ survey.generation.source = report.source) ∧
      (store.root.Distinct → LinksStay directory store after →
        (Repeats report after again ↔ survey.IsComplete ∧
          ¬ FoundAnew exclusions settings.rootDirectory directory
            (rooted environment.workingDirectory report.outputPath) store after)) ∧
      (settings.checkHardcodedPaths = false ∨ (∀ source, environment.sourceOverflow? source = none) →
        survey.IsComplete) := by
  intro settings directory after again
  have named := Settings.isIdentifier_className_repair environment.workingDirectory config
  -- What is logged first does not matter for either run.
  have unlogged (store : Store) : (run environment store config false).result =
      (runWith environment store settings false).result ∧
        (run environment store config false).store = (runWith environment store settings false).store := by
    obtain ⟨records, same⟩ := run_eq_runWith environment store config false
    rw [same]
    exact ⟨rfl, rfl⟩
  have repeats : Repeats report after again ↔ Repeats report after (runWith environment after settings false) := by
    rw [Repeats, Repeats, (unlogged after).1, (unlogged after).2]
  rw [(unlogged store).1] at ended
  obtain ⟨exclusions, known⟩ := wrote_of_written ended wrote
  rw [← (unlogged store).2] at known
  -- The file holds the text of the first run, to which the second one compares its own.
  have decided := repeats.trans known.repeats_iff
  refine ⟨exclusions, compile_of_prepare known.surveys.prepared, decided, fun distinct stay => ?_, isComplete_survey⟩
  exact decided.trans (and_congr_right fun _ => known.source_eq_iff_not_foundAnew named distinct stay)

/-- A result that passes a test is a report. -/
theorem exists_report_of_any {result : Except Crash Report} {test : Report → Bool}
    (passed : result.toOption.any test = true) : ∃ report, result = .ok report ∧ test report = true := by
  -- A crash passes no test.
  cases result with
  | error => cases passed
  | ok report => exact ⟨report, rfl, passed⟩

/-- A module that belongs into the asset root is new to the run after the one that wrote it, which writes it again. -/
theorem not_repeats_run :
    let store : Store := ⟨.directory [] [.directory ['w'] [.file ['a'] []]]⟩
    let config : Value := .dict [Settings.entry "input_path" (.text ['/', 'w']),
      Settings.entry "class_name" (.text ['C']), Settings.entry "root_directory" (.text ['w']),
      Settings.entry "exclude_patterns" (.list [])]
    let first := run {} store config false
    ∃ report, first.result = .ok report ∧ report.ok = true ∧ report.written = true ∧
      ¬ Repeats report first.store (run {} first.store config false) := by
  intro store config first
  -- Both runs are evaluated: each of them writes.
  have wrote : first.result.toOption.any (fun report => report.ok && report.written) = true := by decide +kernel
  have rewrote : (run {} first.store config false).result.toOption.any Report.written = true := by decide +kernel
  obtain ⟨report, ended, passed⟩ := exists_report_of_any wrote
  obtain ⟨other, endedAgain, writtenAgain⟩ := exists_report_of_any rewrote
  obtain ⟨succeeded, written⟩ := Bool.and_eq_true_iff.mp passed
  refine ⟨report, ended, succeeded, written, ?_⟩
  -- A run that repeats the first would not write.
  rintro ⟨later, again, -, -, unwritten, -⟩
  obtain rfl := Except.ok.inj (endedAgain.symm.trans again)
  rw [writtenAgain] at unwritten
  cases unwritten

/-- A module that belongs beside the directory that is searched is not written again. -/
theorem repeats_run_beside :
    let store : Store := ⟨.directory [] [.directory ['w'] [.file ['a'] []]]⟩
    let config : Value := .dict [Settings.entry "input_path" (.text ['/', 'w']),
      Settings.entry "output_path" (.text ['/', 'c']),
      Settings.entry "class_name" (.text ['C']), Settings.entry "root_directory" (.text ['w']),
      Settings.entry "exclude_patterns" (.list [])]
    let first := run {} store config false
    ∃ report, first.result = .ok report ∧ report.written = true ∧
      Repeats report first.store (run {} first.store config false) := by
  intro store config first
  have wrote : first.result.toOption.any
      (fun report => report.written && report.outputPath == ['/', 'c']) = true := by decide +kernel
  have directory : inputPath {} (Settings.repair ['/'] config).1 = ['/', 'w'] := by decide +kernel
  have led : store.place ['/', 'w'] true = .ok [['w']] := by decide +kernel
  have ledModule : first.store.place ['/', 'c'] true = .ok [['c']] := by decide +kernel
  obtain ⟨report, ended, passed⟩ := exists_report_of_any wrote
  obtain ⟨written, path⟩ := Bool.and_eq_true_iff.mp passed
  obtain ⟨exclusions, -, -, repeats, complete⟩ := repeats_run_iff ended written
  refine ⟨report, ended, written, (repeats ?_ ?_).mpr ⟨?_, ?_⟩⟩
  · refine .directory (by decide) fun child member => ?_
    rw [List.mem_singleton.mp member]
    exact .directory (by decide) fun file found => List.mem_singleton.mp found ▸ .file _ _
  · -- The directory that is searched holds one file and no link.
    intro base below name target ledBase found
    rw [directory] at ledBase
    obtain rfl := Except.ok.inj (led.symm.trans ledBase)
    rw [Discovery.at?_root_append rfl] at found
    cases below with
    | nil => cases found
    | cons step rest =>
      rw [Store.Entry.at?, Option.bind_eq_some_iff] at found
      obtain ⟨child, named, inside⟩ := found
      obtain rfl := List.mem_singleton.mp (List.mem_of_find?_eq_some named)
      cases rest <;> cases inside
  · -- Nothing is beyond this machine.
    exact complete (.inr fun _ => rfl)
  · rintro ⟨base, below, ledBase, ledGoal, -⟩
    rw [directory] at ledBase
    rw [beq_iff_eq.mp path] at ledGoal
    obtain rfl := Except.ok.inj (led.symm.trans ledBase)
    cases Except.ok.inj (ledModule.symm.trans ledGoal)

end Repetition

end AssetCatalog.Project
