import AssetCatalog.Crash
import AssetCatalog.Discovery
import AssetCatalog.Path.Expansion
import AssetCatalog.Report
import AssetCatalog.Settings.File
import AssetCatalog.SourceCheck

/-! A run over a project: its assets are found, the module is generated and written, sources are checked. -/

namespace AssetCatalog.Project

open Log (Record)

/-- What the logger of a run writes. -/
def record (level : Log.Level) (message : Text) : Record where
  level := level
  logger := Log.runLogger
  message := message

/-- What a generation writes to the log. -/
def generationRecords (target : Target) (generation : Generation) : List Record :=
  match generation.outcome with
  | .nothing =>
    if generation.assetCount = 0 then
      [record .info ("No assets found beneath '" ++ target.rootDirectory ++ "'. Nothing to generate.")]
    else [record .info "Asset root contains no files. Nothing to generate."]
  | .blocked duplicates =>
    generation.diagnostics.map (fun diagnostic => record .error diagnostic.format)
      ++ [record .error ("Generation blocked: " ++ Text.ofNat duplicates.length
        ++ " duplicate asset key(s) across " ++ Text.ofNat generation.diagnostics.length ++ " file(s).")]
  | .emitted _ =>
    [record .debug ("Generated " ++ generation.className ++ " for " ++ Text.ofNat generation.assetCount
      ++ " asset(s).")]

/-- What is known about a project before anything is written. -/
structure Survey where
  /-- The project directory. -/
  inputPath : Text
  /-- Where the module belongs. -/
  outputPath : Text
  /-- What was generated. -/
  generation : Generation
  /-- The sources that were checked. -/
  checked : List Text
  /-- The warnings about them, or what the machine said of the one that it could not walk over. -/
  verdict : Except Text (List Diagnostic)
  /-- What was written to the log. -/
  records : List Record

namespace Survey

/-- The warnings about the sources; there are none where the check was broken off. -/
def warnings (survey : Survey) : List Diagnostic :=
  survey.verdict.toOption.getD []

/-- The findings of a survey: those that block, then the warnings. -/
def diagnostics (survey : Survey) : List Diagnostic :=
  survey.generation.diagnostics ++ survey.warnings

/-- The version of the character tables that names are made with. -/
def tablesVersion : Text := "14.0.0"

/-- Numbers about the run. -/
def summary (survey : Survey) : Entries :=
  let keys := Text.sorted (survey.generation.duplicates.map Prod.fst)
  [Settings.entry "assets" (.int survey.generation.assetCount),
    Settings.entry "duplicate_keys" (.list (keys.map .text)),
    Settings.entry "checked_files" (.int survey.checked.length),
    Settings.entry "unicode_version" (.text tablesVersion)]

/-- The report of a run that failed after its survey. -/
def failure (survey : Survey) (settings : Settings) (dryRun : Bool) (error : Text) : Report :=
  .failure error settings.entries survey.inputPath survey.outputPath survey.diagnostics
    survey.generation.assetCount dryRun survey.summary

/-- The report of a run that succeeded. -/
def success (survey : Survey) (settings : Settings) (dryRun written : Bool) : Report :=
  let outputPath := if survey.generation.source.isEmpty then [] else survey.outputPath
  .success settings.entries survey.inputPath outputPath written survey.generation.assetCount
    survey.generation.source survey.diagnostics dryRun survey.summary

end Survey

/-- Finds the assets of a project, generates the module, and checks the sources where that is asked for. -/
def survey (environment : Environment) (store : Store) (settings : Settings) (exclusions : List Exclusion)
    (inputPath : Text) : Survey :=
  let outputPath := Path.resolveOutput environment inputPath (moduleFileName settings.className)
    settings.outputPath
  let assets := Discovery.assets store exclusions settings.rootDirectory settings.flattenExtensions
    settings.flattenOverrides inputPath
  let generation := generate assets settings.target
  let checked :=
    if settings.checkHardcodedPaths then
      -- The module itself is full of asset paths, so it is not looked through.
      Discovery.sources store exclusions [".py"] [outputPath] inputPath
    else []
  let check := SourceCheck.checkFiles environment store settings.className checked
  { inputPath, outputPath, generation, checked
    verdict := check.result
    records :=
      [⟨.debug, Log.discoveryLogger,
          "Discovering assets beneath '" ++ settings.rootDirectory ++ "' in: " ++ inputPath⟩,
        record .debug ("Discovered " ++ Text.ofNat assets.length ++ " asset file(s).")]
      ++ generationRecords settings.target generation
      ++ check.records
      ++ (check.result.toOption.getD []).map fun warning => record .warning warning.format }

/-- How a run ended. -/
structure Run where
  /-- The store afterwards. -/
  store : Store
  /-- What was written to the log. -/
  records : List Record
  /-- The report, or what kept it from being made. -/
  result : Except Crash Report

/-- The last message of a run that succeeded. -/
def finished : Record :=
  record .info "Pipeline execution finished."

/-- Writes the module of a survey to its file, where the text differs. -/
def deploy (environment : Environment) (store : Store) (settings : Settings) (survey : Survey)
    (source : Text) : Run :=
  let path := survey.outputPath
  match (Store.publish environment.workingDirectory path source).run store with
  | (.ok written, store) =>
    let message : Text :=
      if written then "Generated module written to: " ++ path
      else "Generated module is up to date: " ++ path
    { store
      records := survey.records ++ [record .info message, finished]
      result := .ok (survey.success settings false written) }
  -- A module that is there but is no text ends the run; any other failure is reported.
  | (.error (.undecodable fault), store) =>
    { store, records := survey.records, result := .error (.undecodable fault) }
  | (.error failure, store) =>
    let message := "Failed to write generated module " ++ path ++ ": " ++ failure.message
    { store
      records := survey.records ++ [record .critical message]
      result := .ok (survey.failure settings false message) }

/-- Ends a run after its survey: only without duplicate keys, and not in a dry run, something is written. -/
def conclude (environment : Environment) (store : Store) (settings : Settings) (dryRun : Bool)
    (survey : Survey) : Run :=
  match survey.generation.outcome with
  | .blocked duplicates =>
    let keys := Text.joinWith ", " (duplicates.map Prod.fst)
    { store
      records := survey.records
      result := .ok (survey.failure settings dryRun ("Duplicate asset keys detected: " ++ keys)) }
  | .nothing =>
    { store
      records := survey.records ++ [finished]
      result := .ok (survey.success settings dryRun false) }
  | .emitted source =>
    -- A dry run ends where the module would be written.
    if dryRun then
      { store
        records := survey.records ++ [finished]
        result := .ok (survey.success settings dryRun false) }
    else deploy environment store settings survey source

/-- Ends a run after its survey, unless the check of sources was broken off. -/
def close (environment : Environment) (store : Store) (settings : Settings) (dryRun : Bool)
    (survey : Survey) : Run :=
  match survey.verdict with
  | .error message => { store, records := survey.records, result := .error (.overflow message) }
  | .ok _ => conclude environment store settings dryRun survey

/-- The exclusion patterns of a run, or what keeps it from looking at its directory. -/
def prepare (environment : Environment) (settings : Settings) : Except Crash (List Exclusion) :=
  -- The output path is resolved first, and then the patterns are compiled.
  if Path.asksForNull settings.outputPath.strip then .error .nullCharacter
  else (Exclusion.compile environment.patternOverflow? settings.excludePatterns).mapError .pattern

/-- Runs with settings that are known to be valid. -/
def runWith (environment : Environment) (store : Store) (settings : Settings) (dryRun : Bool) : Run :=
  let inputPath := Path.resolveDirectory environment environment.workingDirectory settings.inputPath
  if Path.asksForNull (Text.stripOr environment.workingDirectory settings.inputPath) then
    { store, records := [], result := .error .nullCharacter }
  else if store.isDirectory inputPath then
    match prepare environment settings with
    | .error crash => { store, records := [], result := .error crash }
    | .ok exclusions =>
      close environment store settings dryRun (survey environment store settings exclusions inputPath)
  else
    let message := "Invalid input directory: " ++ inputPath
    { store
      records := [record .error message]
      result := .ok (.failure message settings.entries inputPath [] [] 0 dryRun []) }

/-- Runs with any configuration. -/
def run (environment : Environment) (store : Store) (config : Value) (dryRun : Bool) : Run :=
  let (settings, found) := Settings.repair environment.workingDirectory config
  let opening := record .info "Pipeline execution started." :: Settings.validationRecords found
    ++ found.map fun finding => record .warning ("Configuration Warning: " ++ finding.notice)
  let run := runWith environment store settings dryRun
  { run with records := opening ++ run.records }

end AssetCatalog.Project
