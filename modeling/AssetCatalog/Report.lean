import AssetCatalog.Diagnostic
import AssetCatalog.Settings.Value

/-! The report of a run: how it ended, with which settings, and what was found. -/

namespace AssetCatalog

/-- The entries that describe a finding. -/
def Diagnostic.toValue (diagnostic : Diagnostic) : Value :=
  .dict [
    (.text "code", .text diagnostic.code),
    (.text "severity", .text diagnostic.severity.name),
    (.text "message", .text diagnostic.message),
    (.text "path", (diagnostic.path.map Value.text).getD .null),
    (.text "line", (diagnostic.line.map Value.int).getD .null),
    (.text "column", (diagnostic.column.map Value.int).getD .null)]

/-- The report of a run. -/
structure Report where
  /-- Whether the run succeeded. -/
  ok : Bool
  /-- Why it failed. -/
  error : Text := []
  /-- The project directory. -/
  inputPath : Text
  /-- Where the module belongs. -/
  outputPath : Text := []
  /-- The class name that the configuration holds. -/
  className : Value
  /-- The path base that the configuration holds. -/
  pathBase : Value
  /-- The root directory that the configuration holds. -/
  rootDirectory : Value
  /-- Whether nothing was to be written. -/
  dryRun : Bool := false
  /-- Whether the module was written. -/
  written : Bool := false
  /-- The number of assets. -/
  assetCount : Nat := 0
  /-- The text of the module. -/
  source : Text := []
  /-- What was found. -/
  diagnostics : List Diagnostic := []
  /-- Numbers about the run. -/
  summary : Entries := []
deriving Repr

namespace Report

/-- The value of a setting in a report, empty where the configuration does not hold it. -/
def setting (config : Entries) (name : Text) : Value :=
  (config.get? name).getD (.text [])

/-- The report of a run that failed. -/
def failure (error : Text) (config : Entries) (inputPath outputPath : Text) (diagnostics : List Diagnostic)
    (assetCount : Nat) (dryRun : Bool) (summary : Entries) : Report where
  ok := false
  error := error
  inputPath := inputPath
  outputPath := outputPath
  className := setting config "class_name"
  pathBase := setting config "path_base"
  rootDirectory := setting config "root_directory"
  dryRun := dryRun
  assetCount := assetCount
  diagnostics := diagnostics
  summary := summary

/-- The report of a run that succeeded. -/
def success (config : Entries) (inputPath outputPath : Text) (written : Bool) (assetCount : Nat)
    (source : Text) (diagnostics : List Diagnostic) (dryRun : Bool) (summary : Entries) : Report where
  ok := true
  inputPath := inputPath
  outputPath := outputPath
  className := setting config "class_name"
  pathBase := setting config "path_base"
  rootDirectory := setting config "root_directory"
  dryRun := dryRun
  written := written
  assetCount := assetCount
  source := source
  diagnostics := diagnostics
  summary := summary

/-- The number of findings that block. -/
def errorCount (report : Report) : Nat :=
  report.diagnostics.countP Diagnostic.isError

/-- The number of findings that do not block. -/
def warningCount (report : Report) : Nat :=
  report.diagnostics.countP fun diagnostic => !diagnostic.isError

/-- The report as a dictionary, without the text of the module. -/
def toValue (report : Report) : Value :=
  .dict [
    (.text "ok", .bool report.ok),
    (.text "error", .text report.error),
    (.text "input_path", .text report.inputPath),
    (.text "output_path", .text report.outputPath),
    (.text "class_name", report.className),
    (.text "path_base", report.pathBase),
    (.text "root_directory", report.rootDirectory),
    (.text "dry_run", .bool report.dryRun),
    (.text "written", .bool report.written),
    (.text "asset_count", .int report.assetCount),
    (.text "diagnostics", .list (report.diagnostics.map Diagnostic.toValue)),
    (.text "summary", .dict report.summary)]

end Report

end AssetCatalog
