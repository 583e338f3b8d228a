import AssetCatalog.CommandLine.Program

/-! What the program shows of the run that it makes, when it is given nothing but a project directory. -/

namespace AssetCatalog

namespace Log

variable {logger : Logger} {time : Text} {store : Store}

/-- The logger writes to the console at most. -/
def Logger.OnConsole (logger : Logger) : Prop :=
  ∀ sink ∈ logger.listener.getD [], sink.target = .console

/-- Writing a record to the console changes neither the logger nor the store. -/
theorem Logger.OnConsole.log (onConsole : logger.OnConsole) (record : Record) :
    (logger.log time record store).logger = logger ∧ (logger.log time record store).store = store := by
  have only : ∀ sink ∈ logger.sinksFor record, sink.target = .console := by
    intro sink member
    rw [Logger.sinksFor] at member
    split at member
    · exact onConsole sink (List.mem_filter.mp member).1
    · cases member
  -- Each sink leaves the store to the next one.
  rw [Logger.log]
  refine List.foldlRecOn (motive := fun effect : Effect => effect.logger = logger ∧ effect.store = store) _ _
    ⟨rfl, rfl⟩ fun effect kept sink member => ?_
  rw [only sink member]
  exact kept

/-- Writing records to the console leaves the store as it is. -/
theorem Logger.OnConsole.logAll (onConsole : logger.OnConsole) (records : List Record) :
    (logger.logAll time records store).store = store := by
  -- The logger has to stay the same as well, for the next record to be written to the console.
  have kept : (logger.logAll time records store).logger = logger ∧
      (logger.logAll time records store).store = store := by
    rw [Logger.logAll]
    refine List.foldlRecOn (motive := fun effect : Effect => effect.logger = logger ∧ effect.store = store) _ _
      ⟨rfl, rfl⟩ fun effect kept record _ => ?_
    dsimp only
    rw [kept.1, kept.2]
    exact onConsole.log record
  exact kept.2

end Log

namespace CommandLine

open Log (Record)

variable {environment : Environment} {time project : Text} {store : Store} {given : Given}

/-- The options that give a project directory and nothing else. -/
def givenInput (project : Text) : Given :=
  [(.input, .text project)]

/-- A project directory that does not look like an option is read as one. -/
theorem request_input (plain : project.head? ≠ some '-') : request ["-i", project] = .run (givenInput project) := by
  -- A text that is the separator of options begins with a hyphen, so this one is no separator.
  have noSeparator : project ≠ ['-', '-'] := by
    rintro rfl
    exact plain rfl
  have role : role project = .ok .plain := by
    rw [CommandLine.role.eq_def]
    split
    · exact absurd rfl plain
    · rfl
  -- The option comes first, and the directory behind it does not look like one.
  have roles : roles ["-i", project] =
      .ok [("-i", .option ⟨.input, ["-i", "--input"], true⟩ "-i" none), (project, .plain)] := by
    rw [roles, roles, if_neg noSeparator, role]
    rfl
  rw [request, roles]
  simp [read, givenValue, noSeparator, givenInput]

/-- The outcome shows how a run ended: in the store, in the exit code, and in what is printed. -/
structure Outcome.Shows (outcome : Outcome) (given : Given) (run : Project.Run) : Prop where
  /-- The store is that of the run. -/
  store : outcome.store = run.store
  /-- A crash is printed. -/
  crashed : ∀ {crash}, run.result = .error crash →
    outcome.code = 1 ∧ outcome.out = [] ∧ outcome.err = (CommandLine.crashed run.store [] crash).err
  /-- A report is rendered. -/
  reported : ∀ {report}, run.result = .ok report →
    outcome.code = (if report.ok then 0 else 1) ∧ (outcome.out, outcome.err) = render given report

/-- What is logged besides does not matter. -/
theorem Outcome.Shows.withLog {outcome : Outcome} {run : Project.Run} (shows : outcome.Shows given run)
    (records : List Record) (console : Text) : { outcome with records, console }.Shows given run :=
  ⟨shows.store, shows.crashed, shows.reported⟩

/-- The run that the program makes of some options for a project directory. -/
def runFor (environment : Environment) (store : Store) (given : Given) (directory : Text) : Project.Run :=
  match (configuration environment store given directory).1 with
  | .error crash => { store, records := [], result := .error crash }
  | .ok config =>
    let settings := (Settings.repair environment.workingDirectory (.dict config)).1
    Project.run environment store settings.toValue (given.has .dryRun)

/-- Unless only the configuration is asked for, the program shows the run over a directory that is there. -/
theorem shows_perform
    (known : Path.asksForNull (Text.stripOr environment.workingDirectory (textOf (given.value .input))) = false)
    (isThere : store.isDirectory (Path.resolveDirectory environment environment.workingDirectory
      (textOf (given.value .input))) = true) (runs : given.has .dumpConfig = false) :
    (perform environment store given).Shows given (runFor environment store given
      (Path.resolveDirectory environment environment.workingDirectory (textOf (given.value .input)))) := by
  rw [perform, known, runFor]
  dsimp only [Bool.false_eq_true, if_false]
  generalize Path.resolveDirectory environment environment.workingDirectory (textOf (given.value .input)) =
    directory at isThere ⊢
  obtain ⟨configured, records⟩ := configuration environment store given directory
  cases configured with
  -- Without a configuration nothing is run, and the crash is that of the run.
  | error crash =>
    refine ⟨rfl, fun same => ?_, fun reported => by cases reported⟩
    cases same
    exact ⟨rfl, rfl, rfl⟩
  | ok config =>
    dsimp only
    rw [proceed, runs, isThere]
    dsimp only [Bool.false_eq_true, if_false, Bool.not_true]
    -- The run ends without a report, or with the one that is shown.
    generalize Project.run environment store _ (given.has .dryRun) = run
    cases ended : run.result with
    | error crash =>
      refine ⟨rfl, fun same => ?_, fun reported => by cases ended.symm.trans reported⟩
      cases ended.symm.trans same
      exact ⟨rfl, rfl, rfl⟩
    | ok report =>
      refine ⟨rfl, fun same => (by cases ended.symm.trans same), fun reported => ?_⟩
      cases ended.symm.trans reported
      exact ⟨rfl, rfl⟩

/-- The logger of the program, when no log file is named. -/
def consoleLogger : Log.Logger where
  level := Log.Level.info
  handlers := [.queue]
  listener := some [⟨Log.Level.info, .console⟩]
  isConfigured := true

/-- With a project directory alone, the program leaves its log on the console. -/
theorem run_input (environment : Environment) (time : Text) (store : Store) (plain : project.head? ≠ some '-') :
    ∃ records console,
    run environment time store ["-i", project] =
      { perform environment store (givenInput project) with records, console } := by
  -- No log file is named, so that none is opened.
  have level : Log.Level.ofName "INFO" = Log.Level.info := by decide +kernel
  have opened : Log.Logger.configure environment.workingDirectory (logOptions (givenInput project)) true {} store =
      { logger := consoleLogger, store } := by
    rw [consoleLogger, ← level]
    rfl
  have onConsole : consoleLogger.OnConsole := by simp [Log.Logger.OnConsole, consoleLogger]
  rw [run, request_input plain]
  dsimp only
  rw [opened]
  dsimp only
  -- What is logged shows on the console and leaves the store as it is.
  rw [onConsole.logAll]
  exact ⟨_, _, rfl⟩

end CommandLine

end AssetCatalog
