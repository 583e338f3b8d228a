import AssetCatalog.Generation
import AssetCatalog.Settings.Value

/-! The settings of a run, their defaults, and the dictionary that shows them. -/

namespace AssetCatalog

/-- The settings of a run. -/
structure Settings where
  /-- The project directory. -/
  inputPath : Text
  /-- Where the module is written; empty for a place derived from the class name. -/
  outputPath : Text := []
  /-- The name of the outermost class. -/
  className : Text := "StaticAssets"
  /-- What every web path starts with. -/
  pathBase : Text := "/"
  /-- The name of the directory beneath which assets lie. -/
  rootDirectory : Text := "wwwroot"
  /-- Whether extensions stay part of the names. -/
  flattenExtensions : Bool := true
  /-- Flags for the files whose relative paths match a glob pattern; the last match wins. -/
  flattenOverrides : List (Text × Bool) := []
  /-- Regular expressions for the names of files and directories to skip. -/
  excludePatterns : List Text := [
    "^(__pycache__|\\.git|\\.hg|\\.svn|\\.idea|\\.vscode|node_modules)$",
    "^(\\.venv|venv|\\.tox|\\.nox|\\.mypy_cache|\\.pytest_cache)$",
    ".*\\.pyc$"]
  /-- Whether the sources of the project are checked for spelled out asset paths. -/
  checkHardcodedPaths : Bool := false
  /-- Entries that are no settings. -/
  others : Entries := []
deriving Repr

namespace Settings

/-- The names of the settings, in the order in which they are shown. -/
def fieldNames : List Text :=
  ["input_path", "output_path", "class_name", "path_base", "root_directory", "flatten_extensions",
    "flatten_overrides", "exclude_patterns", "check_hardcoded_paths"]

/-- Whether a key names a setting. -/
def isFieldName : Value → Bool
  | .text name => fieldNames.contains name
  | _ => false

/-- The settings that are used where nothing else is said. -/
def defaults (workingDirectory : Text) : Settings where
  inputPath := workingDirectory

/-- What the settings say about the emitted module. -/
def target (settings : Settings) : Target where
  className := settings.className
  pathBase := settings.pathBase
  rootDirectory := settings.rootDirectory

/-- The entry of a setting. -/
def entry (name : String) (value : Value) : Value × Value :=
  (.text name.toList, value)

/-- The settings as the entries of a dictionary. -/
def entries (settings : Settings) : Entries :=
  let overrides := settings.flattenOverrides.map fun override => (Value.text override.1, Value.bool override.2)
  [entry "input_path" (.text settings.inputPath),
    entry "output_path" (.text settings.outputPath),
    entry "class_name" (.text settings.className),
    entry "path_base" (.text settings.pathBase),
    entry "root_directory" (.text settings.rootDirectory),
    entry "flatten_extensions" (.bool settings.flattenExtensions),
    entry "flatten_overrides" (.dict overrides),
    entry "exclude_patterns" (.list (settings.excludePatterns.map .text)),
    entry "check_hardcoded_paths" (.bool settings.checkHardcodedPaths)] ++ settings.others

/-- The settings as a dictionary. -/
def toValue (settings : Settings) : Value :=
  .dict settings.entries

end Settings

end AssetCatalog
