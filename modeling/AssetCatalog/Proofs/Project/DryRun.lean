import AssetCatalog.Proofs.Project.Again

/-! A dry run predicts the run that may write: both report the same, but for what is written. -/

namespace AssetCatalog.Store

variable {store after : Store} {directory path content : Text} {written : Bool}

/-- A text is written exactly if it is not the one that the file was found to hold. -/
theorem readText?_of_run_publish (ended : (publish directory path content).run store = (.ok written, after)) :
    ∃ held, store.readText? directory path = .ok held ∧ (written = true ↔ held ≠ some content) := by
  -- Nothing can be told of a file that is not read first.
  obtain ⟨held, known⟩ : ∃ held, store.readText? directory path = .ok held := by
    rw [run_publish] at ended
    cases known : store.readText? directory path with
    | error failure =>
      rw [known] at ended
      cases ended
    | ok held => exact ⟨held, rfl⟩
  refine ⟨held, known, ?_⟩
  -- The publication found the text there, or has stored it because it did not.
  have published := publication directory path content store
  rw [ended] at published
  cases published with
  | current same =>
    rw [readText?_eq_some_iff.mpr same] at known
    cases known
    simp
  | written stored =>
    refine ⟨fun _ same => ?_, fun _ => rfl⟩
    rw [same, readText?_eq_some_iff] at known
    rw [run_publish_of_held known] at ended
    cases ended

end AssetCatalog.Store

namespace AssetCatalog

/-- The report of a run that may write, as a dry run predicts it. -/
def Report.performed (written : Bool) (planned : Report) : Report :=
  { planned with dryRun := false, written }

namespace Project

variable {environment : Environment} {store : Store} {settings : Settings} {survey : Survey} {source : Text}
  {config : Value}

/-- A run ended because the file of its module could not be read or written. -/
inductive FailsToPublish : Except Crash Report → Prop
  /-- What the file holds is no text. -/
  | reading (fault : Utf8.Fault) : FailsToPublish (.error (.undecodable fault))
  /-- The file cannot be used. -/
  | writing {report : Report} {failure : Store.Failure} (told : report.error = writeError report.outputPath failure) :
    FailsToPublish (.ok report)

/-- A module was emitted, and its file holds another text or is not there. -/
structure IsDue (environment : Environment) (store : Store) (report : Report) : Prop where
  /-- The run succeeded. -/
  ok : report.ok = true
  /-- There is a module. -/
  filled : report.source ≠ []
  /-- Its file holds something else. -/
  differs : ∃ held, store.readText? environment.workingDirectory report.outputPath = .ok held ∧
    held ≠ some report.source

/-- How a dry run and a run that may write belong together. -/
def Predicts (environment : Environment) (store : Store) (dry wet : Except Crash Report) : Prop :=
  ∃ written, wet = dry.map (Report.performed written) ∧
    ∀ planned, dry = .ok planned → planned.written = false ∧ (written = true ↔ IsDue environment store planned)

/-- A run that crashes before it could write is predicted by one that crashes alike. -/
theorem predicts_crash (crash : Crash) : Predicts environment store (.error crash) (.error crash) :=
  ⟨false, rfl, fun _ reported => by cases reported⟩

/-- A run that has nothing to write is predicted by its own report. -/
theorem predicts_of_not_isDue {report planned : Report} (same : report = planned.performed false)
    (unwritten : planned.written = false) (settled : ¬ IsDue environment store planned) :
    Predicts environment store (.ok planned) (.ok report) := by
  -- Neither of the runs writes, which is what the report of the dry run says.
  refine ⟨false, congrArg Except.ok same, fun other reported => ?_⟩
  cases reported
  exact ⟨unwritten, by simp [settled]⟩

/-- A run that wrote its module, or found it up to date, was predicted. -/
theorem predicts_deploy (emits : survey.Emits source)
    (published : ¬ FailsToPublish (deploy environment store settings survey source).result) :
    Predicts environment store (.ok (survey.success settings true false))
      (deploy environment store settings survey source).result := by
  rw [deploy] at published ⊢
  cases ended : (Store.publish environment.workingDirectory survey.outputPath source).run store with
  | mk result after =>
  rw [ended] at published
  cases result with
  | error failure =>
    -- A run that failed to publish was left out.
    refine absurd ?_ published
    cases failure with
    | undecodable fault => exact .reading fault
    | unusable cause culprit => exact .writing rfl
  | ok written =>
    -- The file was read, and whether it was written depends on what it held.
    obtain ⟨held, known, differs⟩ := Store.readText?_of_run_publish ended
    refine ⟨written, rfl, fun planned reported => ?_⟩
    cases reported
    refine ⟨rfl, differs.trans ⟨fun other => ⟨rfl, ?_, held, ?_, ?_⟩, ?_⟩⟩
    · rw [emits.source_success]
      exact emits.filled
    · rw [emits.outputPath_success, known]
    · rwa [emits.source_success]
    · rintro ⟨-, -, other, found, differs⟩
      rw [emits.outputPath_success, known] at found
      rw [emits.source_success] at differs
      cases found
      exact differs

/-- How a run ends after its survey is predicted by how a dry run does. -/
theorem predicts_conclude (filled : ∀ {source}, survey.generation.outcome = .emitted source → source ≠ [])
    (published : ¬ FailsToPublish (conclude environment store settings false survey).result) :
    Predicts environment store (conclude environment store settings true survey).result
      (conclude environment store settings false survey).result := by
  rw [conclude] at published ⊢
  rw [conclude]
  -- Only a module that was emitted is written, and without one the two reports say the same.
  cases outcome : survey.generation.outcome with
  | nothing =>
    refine predicts_of_not_isDue rfl rfl fun due => due.filled ?_
    simp [Survey.success, Report.success, Generation.source, outcome]
  | blocked duplicates => exact predicts_of_not_isDue rfl rfl fun due => by cases due.ok
  | emitted source =>
    rw [outcome] at published
    exact predicts_deploy ⟨outcome, filled outcome⟩ published

/-- How a run ends on its survey, complete or not, is predicted by how a dry run does. -/
theorem predicts_close (filled : ∀ {source}, survey.generation.outcome = .emitted source → source ≠ [])
    (published : ¬ FailsToPublish (close environment store settings false survey).result) :
    Predicts environment store (close environment store settings true survey).result
      (close environment store settings false survey).result := by
  rw [close] at published ⊢
  rw [close]
  -- Where the check was broken off, both crash over the same source.
  cases verdict : survey.verdict with
  | error message => exact predicts_crash _
  | ok warnings =>
    rw [verdict] at published
    exact predicts_conclude filled published

/-- A run with settings that are known to be valid is predicted by a dry run with them. -/
theorem predicts_runWith (published : ¬ FailsToPublish (runWith environment store settings false).result) :
    Predicts environment store (runWith environment store settings true).result
      (runWith environment store settings false).result := by
  -- Both end alike before their survey, or make the same one.
  cases known : Path.asksForNull (Text.stripOr environment.workingDirectory settings.inputPath) with
  | true =>
    rw [runWith_of_unknown known, runWith_of_unknown known]
    exact predicts_crash _
  | false =>
    cases isThere : store.isDirectory (inputPath environment settings) with
    | false =>
      rw [runWith_of_missing known isThere, runWith_of_missing known isThere]
      exact predicts_of_not_isDue rfl rfl fun due => by cases due.ok
    | true =>
      cases prepared : prepare environment settings with
      | error crash =>
        rw [runWith_of_crash known isThere prepared, runWith_of_crash known isThere prepared]
        exact predicts_crash _
      | ok exclusions =>
        have surveys : Surveys environment store settings exclusions := ⟨known, isThere, prepared⟩
        rw [runWith_eq_close surveys] at published ⊢
        rw [runWith_eq_close surveys]
        -- With one survey for both, only a module that is emitted can make a difference.
        refine predicts_close (fun emitted => ?_) published
        rw [generation_survey] at emitted
        exact ne_nil_of_emitted emitted

/--
A dry run predicts the run that may write, unless the latter cannot read or write the file of its module.

Both crash alike, or report the same but for what is written.
The dry run writes nothing, and the other run writes just a module that is due.
-/
theorem run_predicted {environment : Environment} {store : Store} {config : Value}
    (published : ¬ FailsToPublish (run environment store config false).result) :
    ∃ written,
      (run environment store config false).result =
        (run environment store config true).result.map (Report.performed written) ∧
      ∀ planned, (run environment store config true).result = .ok planned →
        planned.written = false ∧ (written = true ↔ IsDue environment store planned) := by
  -- What is logged first does not matter for either run.
  obtain ⟨_, wet⟩ := run_eq_runWith environment store config false
  obtain ⟨_, dry⟩ := run_eq_runWith environment store config true
  rw [wet] at published
  rw [wet, dry]
  exact predicts_runWith published

/-- A run that fails to write its module tells an error. -/
theorem writeError_ne_nil (path : Text) (failure : Store.Failure) : writeError path failure ≠ [] := by
  -- The message opens with words of its own.
  have opening : ("Failed to write generated module " : Text) ≠ [] := by decide +kernel
  intro silent
  unfold writeError at silent
  simp only [List.append_eq_nil_iff] at silent
  exact opening silent.1.1.1

/-- A module whose file holds another text is written, as a dry run tells. -/
theorem run_predicted_stale :
    let store : Store := ⟨.directory [] [.directory ['w'] [.file ['a'] []], .file ['c'] []]⟩
    let config : Value := .dict [Settings.entry "input_path" (.text ['/', 'w']),
      Settings.entry "output_path" (.text ['/', 'c']),
      Settings.entry "class_name" (.text ['C']), Settings.entry "root_directory" (.text ['w']),
      Settings.entry "exclude_patterns" (.list [])]
    ¬ FailsToPublish (run {} store config false).result ∧
      ∃ planned, (run {} store config true).result = .ok planned ∧ planned.written = false ∧
        IsDue {} store planned ∧ (run {} store config false).result = .ok (planned.performed true) := by
  intro store config
  have silent : (run {} store config false).result.toOption.any (fun report => report.error.isEmpty) = true := by
    decide +kernel
  have told : (run {} store config true).result.toOption.any (fun planned =>
      planned.ok && !planned.source.isEmpty && planned.outputPath == ['/', 'c']) = true := by decide +kernel
  -- The file of the module is there and empty, so its text differs from what is generated.
  have held : store.readText? ['/'] ['/', 'c'] = .ok (some []) := by
    exact Store.readText?_eq_some_iff.mpr rfl
  -- Without an error in the report, no failure to publish was told.
  have published : ¬ FailsToPublish (run {} store config false).result := by
    obtain ⟨report, ended, none⟩ := exists_report_of_any silent
    intro failed
    rw [ended] at failed
    cases failed with
    | writing told => exact writeError_ne_nil _ _ (told ▸ List.isEmpty_iff.mp none)
  obtain ⟨planned, ended, passed⟩ := exists_report_of_any told
  obtain ⟨written, same, predicted⟩ := run_predicted published
  obtain ⟨unwritten, performed⟩ := predicted planned ended
  simp only [Bool.and_eq_true, beq_iff_eq, Bool.not_eq_true', List.isEmpty_eq_false_iff] at passed
  obtain ⟨⟨succeeded, filled⟩, path⟩ := passed
  have due : IsDue {} store planned := by
    refine ⟨succeeded, filled, some [], ?_, ?_⟩
    · rw [path]
      exact held
    · simpa [eq_comm] using filled
  refine ⟨published, planned, ended, unwritten, due, ?_⟩
  rw [same, ended, performed.mpr due]
  rfl

end Project

end AssetCatalog
