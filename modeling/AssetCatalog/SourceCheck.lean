import AssetCatalog.HardcodedPath
import AssetCatalog.Log.Record
import AssetCatalog.Path.Expansion
import AssetCatalog.Store.Document

/-! The check of source files for spelled out asset paths. -/

namespace AssetCatalog.SourceCheck

/-- What a check brought about. -/
structure Outcome where
  /-- The warnings, or what the machine said of the source that it could not walk over. -/
  result : Except Text (List Diagnostic) := .ok []
  /-- What was written to the log. -/
  records : List Log.Record := []

/-- What the logger of the check writes. -/
def record (level : Log.Level) (message : Text) : Log.Record where
  level := level
  logger := Log.checkLogger
  message := message

/-- The message about a source that is no program. -/
def skipMessage (path : Text) (fault : Source.Fault) : Text :=
  match fault.cause with
  | .nullCharacter => "Skipping '" ++ path ++ "': " ++ fault.cause.message
  | cause =>
    "Skipping '" ++ path ++ "': invalid syntax (" ++ cause.message ++ ", line " ++ Text.ofNat fault.line ++ ")"

/-- Checks one file; one that cannot be read, or is no program, has no warnings. -/
def checkFile (environment : Environment) (store : Store) (className path : Text) : Outcome :=
  match store.readLines environment.workingDirectory path with
  | .error failure =>
    { records := [record .warning
        ("Could not read '" ++ path ++ "' for path checking: " ++ failure.message)] }
  | .ok source =>
    match HardcodedPath.inspect path className source with
    | .error fault => { records := [record .debug (skipMessage path fault)] }
    | .ok warnings =>
      -- A source that was generated is not walked over.
      match if HardcodedPath.isGenerated source then none else environment.sourceOverflow? source with
      | some message => { result := .error message }
      | none => { result := .ok warnings }

/-- Checks files one after the other, up to one that the machine cannot walk over. -/
def checkFiles (environment : Environment) (store : Store) (className : Text) : List Text → Outcome
  | [] => {}
  | path :: paths =>
    let first := checkFile environment store className path
    match first.result with
    | .error message => { result := .error message, records := first.records }
    | .ok warnings =>
      let rest := checkFiles environment store className paths
      { result := rest.result.map (warnings ++ ·), records := first.records ++ rest.records }

end AssetCatalog.SourceCheck
