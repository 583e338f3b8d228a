import AssetCatalog.Log.Record
import AssetCatalog.Settings.Json
import AssetCatalog.Settings.Validation
import AssetCatalog.Store.Document

/-! The settings file of a project: where it lies, and the configuration that it makes of the defaults. -/

namespace AssetCatalog.Settings

/-- The name of the settings file. -/
def fileName : Text := "assetgen.json"

/-- The path of the settings file in a directory, where there is one. -/
def findFile? (store : Store) (workingDirectory directory : Text) : Option Text :=
  let path := Path.join directory fileName
  if store.isFile (Store.rooted workingDirectory path) then some path else none

/-- What the logger of the settings file writes. -/
def record (level : Log.Level) (message : Text) : Log.Record where
  level := level
  logger := Log.settingsLogger
  message := message

/-- The value in the text of a settings file, or why there is none. -/
def decodeFile (store : Store) (workingDirectory path : Text) : Except Text Value := do
  let text ← (store.readLines workingDirectory path).mapError Store.Failure.message
  (Json.decode text).mapError (Json.DecodeError.message text)

/-- The names of entries that are no settings, in order. -/
def unknownNames (entries : Entries) : List Text :=
  Text.sorted (entries.filterMap fun entry =>
    match entry.1 with
    | .text name => if fieldNames.contains name then none else some name
    | _ => none)

/-- A configuration with the settings among some entries in place of its own. -/
def adopt (entries config : Entries) : Entries :=
  entries.foldl (fun config entry =>
    if isFieldName entry.1 then Value.putEntry entry.1 entry.2 config else config) config

/-- The configuration of a settings file over the defaults; a file that cannot be used changes nothing. -/
def load (store : Store) (workingDirectory : Text) (path : Option Text) : Entries × List Log.Record :=
  let config := (defaults workingDirectory).entries
  match path with
  | none | some [] => (config, [])
  | some path =>
    if !store.contains (Store.rooted workingDirectory path) then
      (config, [record .debug ("Config file not found: " ++ path ++ ". Using defaults.")])
    else match decodeFile store workingDirectory path with
      | .error reason =>
        (config, [record .error
          ("Failed to load config '" ++ path ++ "': " ++ reason ++ ". Using defaults.")])
      | .ok (.dict entries) =>
        -- Entries of unknown names are told of, and the others are taken over.
        let unknown := unknownNames entries
        let notice := if unknown.isEmpty then [] else [record .warning
          ("Ignoring unknown config keys in '" ++ path ++ "': " ++ Text.joinWith ", " unknown)]
        (adopt entries config, notice ++ [record .debug ("Configuration loaded from " ++ path)])
      | .ok _ =>
        (config, [record .warning
          ("Ignoring config '" ++ path ++ "': top-level value must be an object.")])

/-- Settings from any value, with what was found while repairing it. -/
def repair (workingDirectory : Text) (config : Value) : Settings × List Finding :=
  -- A lenient validation refuses nothing.
  match validate .lenient workingDirectory config with
  | .ok result => result
  | .error _ => (defaults workingDirectory, [])

/-- What the validation itself writes to the log: a configuration of another type. -/
def validationRecords (found : List Finding) : List Log.Record :=
  found.filterMap fun finding =>
    match finding with
    | .notDictionary _ => some ⟨.warning, Log.validationLogger, finding.refusal⟩
    | _ => none

end AssetCatalog.Settings
