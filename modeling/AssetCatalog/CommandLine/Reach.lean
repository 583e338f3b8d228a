import AssetCatalog.CommandLine.Program

/-! What a run of the program looks at: the project directory, and files that may lie outside of it. -/

namespace AssetCatalog.CommandLine

/-- What a run looks at. -/
structure Reach where
  /-- The project directory. -/
  directories : List Text := []
  /-- The settings file, the module and the log files. -/
  files : List Text := []
deriving DecidableEq, Repr

/-- The log files that some options name, with the older ones beside them. -/
def logFiles (workingDirectory : Text) (given : Given) : List Text :=
  let options := logOptions given
  match options.logFile? workingDirectory with
  | none => []
  | some file => file.path :: (List.range options.backupCount.toNat).map fun n => file.backupPath (n + 1)

/-- Where the module belongs, as far as the settings are known. -/
def modulePath (environment : Environment) (store : Store) (given : Given) (inputPath : Text) : List Text :=
  match (configuration environment store given inputPath).1 with
  | .error _ => []
  | .ok config =>
    let settings := (Settings.repair environment.workingDirectory (.dict config)).1
    [Path.resolveOutput environment inputPath (moduleFileName settings.className) settings.outputPath]

/-- What a run with these arguments looks at; where the module belongs depends on the settings file. -/
def reach (environment : Environment) (store : Store) (arguments : List Text) : Reach :=
  match request arguments with
  | .explain | .refuse _ => {}
  | .run given =>
    let directory := environment.workingDirectory
    let inputPath := Path.resolveDirectory environment directory (textOf (given.value .input))
    let settingsFile := match textOf (given.value .config) with
      | [] => Path.join inputPath Settings.fileName
      | path => Store.rooted directory path
    { directories := [inputPath]
      files := settingsFile :: logFiles directory given ++ modulePath environment store given inputPath }

end AssetCatalog.CommandLine
