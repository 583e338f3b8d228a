import AssetCatalog.CommandLine.Overrides
import AssetCatalog.Log.Logger
import AssetCatalog.Project

/-! The program behind the command line: from its arguments to what it prints, logs and changes. -/

namespace AssetCatalog.CommandLine

open Log (Record)

/-- How the program ended, with what it printed, logged and changed. -/
structure Outcome where
  /-- The exit code. -/
  code : Nat
  /-- What it printed as its result. -/
  out : Text := []
  /-- What it printed about errors. -/
  err : Text := []
  /-- The records that reached the log. -/
  records : List Record := []
  /-- The log lines on the console. -/
  console : Text := []
  /-- The store afterwards. -/
  store : Store

/-- What the logger of the command line writes. -/
def record (level : Log.Level) (message : Text) : Record where
  level := level
  logger := Log.commandLogger
  message := message

/-- The text of a value, empty for a value of another type. -/
def textOf : Value → Text
  | .text text => text
  | _ => []

/-- A line of printed text. -/
def printed (text : Text) : Text :=
  text ++ ['\n']

/-- A configuration in which a relative output path starts at the project directory. -/
def anchorOutput (inputPath : Text) (config : Entries) : Except Crash Entries :=
  match (config.get? "output_path").getD .null with
  | .text path =>
    if path.isEmpty || Path.isAbsolute path then .ok config
    else .ok (config.put "output_path" (.text (Path.join inputPath path)))
  | other => if other.isTruthy then .error (.noPath other.typeName) else .ok config

/-- The result of a run in words. -/
def summary (report : Report) : Text :=
  -- The settings of a report were valid, so that their values are texts.
  let count := Text.ofNat report.assetCount
  let state : Text :=
    if report.assetCount = 0 then
      "No assets found under '" ++ textOf report.rootDirectory ++ "'. Nothing generated."
    else if report.dryRun then "Dry run: " ++ count ++ " asset(s), target " ++ report.outputPath
    else if report.written then
      "Generated " ++ textOf report.className ++ " (" ++ count ++ " assets): " ++ report.outputPath
    else textOf report.className ++ " is up to date (" ++ count ++ " assets): " ++ report.outputPath
  let checked : Text := match report.summary.get? "checked_files" with
    | some (.int (.ofNat (n + 1))) =>
      printed ("Checked " ++ Text.ofNat (n + 1) ++ " source file(s): " ++ Text.ofNat report.warningCount
        ++ " hardcoded path(s)")
    | _ => []
  printed state ++ checked

/-- What is printed about a report: its dictionary, the module of a dry run, or words. -/
def render (given : Given) (report : Report) : Text × Text :=
  if given.has .json then (printed (Json.encode 0 report.toValue), [])
  else if given.has .dryRun && report.ok && !report.source.isEmpty then (report.source, [])
  else
    let findings := report.diagnostics.flatMap fun diagnostic => printed diagnostic.format
    if report.ok then (summary report, findings)
    else ([], findings ++ printed ("ERROR: " ++ report.error))

/-- The end of the program after a crash. -/
def crashed (store : Store) (records : List Record) (crash : Crash) : Outcome :=
  let bar : Text := List.replicate 80 '='
  { code := 1
    err := '\n' :: (printed bar ++ printed "CRITICAL ERROR (ASSETGEN CLI)" ++ printed bar
      ++ printed (crash.kind ++ ": " ++ crash.message))
    records := records
      ++ [⟨.critical, Log.crashLogger, "FATAL EXCEPTION DETECTED: " ++ crash.message⟩]
    store }

/-- The configuration of a run: the settings file under the options, for a project directory. -/
def configuration (environment : Environment) (store : Store) (given : Given) (inputPath : Text) :
    Except Crash Entries × List Record :=
  let directory := environment.workingDirectory
  let path := match textOf (given.value .config) with
    | [] => Settings.findFile? store directory inputPath
    | path => some path
  let (base, records) := Settings.load store directory path
  ((anchorOutput inputPath base).map fun base =>
    (merge base (overrides given)).put "input_path" (.text inputPath), records)

/-- Runs with settings, unless only they are asked for or there is no project directory. -/
def proceed (environment : Environment) (store : Store) (given : Given) (settings : Settings)
    (inputPath : Text) (records : List Record) : Outcome :=
  if given.has .dumpConfig then
    { code := 0, out := printed (Json.encode 0 settings.toValue), records, store }
  else if !store.isDirectory inputPath then
    let message := "Input directory does not exist: " ++ inputPath
    { code := 2, err := printed ("ERROR: " ++ message), records := records ++ [record .error message], store }
  else
    let run := Project.run environment store settings.toValue (given.has .dryRun)
    let records := records ++ run.records
    match run.result with
    | .error crash => crashed run.store records crash
    | .ok report =>
      let (out, err) := render given report
      { code := if report.ok then 0 else 1, out, err, records, store := run.store }

/-- Does what the given options ask for. -/
def perform (environment : Environment) (store : Store) (given : Given) : Outcome :=
  let start := record .debug "CLI execution initiated. Resolving configuration hierarchy..."
  let input := textOf (given.value .input)
  if Path.asksForNull (Text.stripOr environment.workingDirectory input) then
    crashed store [start] .nullCharacter
  else
    let inputPath := Path.resolveDirectory environment environment.workingDirectory input
    match configuration environment store given inputPath with
    | (.error crash, records) => crashed store (start :: records) crash
    | (.ok config, records) =>
      let (settings, found) := Settings.repair environment.workingDirectory (.dict config)
      let notices := found.map fun finding => record .warning ("Configuration Constraint: " ++ finding.notice)
      proceed environment store given settings inputPath (start :: records ++ notices)

/-- How the log of the program is configured. -/
def logOptions (given : Given) : Log.Options where
  level := if given.has .debug then "DEBUG" else "INFO"
  file := some (textOf (given.value .logFile))

/-- Runs the program with its arguments at a time; the log is written once the work is done. -/
def run (environment : Environment) (time : Text) (store : Store) (arguments : List Text) : Outcome :=
  match request arguments with
  | .explain => { code := 0, out := help, store }
  | .refuse fault => { code := 2, err := refusal fault, store }
  | .run given =>
    -- The log is opened before the work is done, so a notice about its file comes first.
    let opened := Log.Logger.configure environment.workingDirectory (logOptions given) true {} store
    let outcome := perform environment opened.store given
    let records := outcome.records.filter (Record.reaches opened.logger.level)
    let logged := opened.logger.logAll time records outcome.store
    { outcome with
      err := opened.shown ++ outcome.err
      records := records
      console := logged.shown
      store := logged.store }

end AssetCatalog.CommandLine
