import AssetCatalog.CommandLine.Arguments
import AssetCatalog.Settings.Validation

/-! The settings that options override, and the configuration with them. -/

namespace AssetCatalog.CommandLine

/-- The value of an option, nothing where it was not given. -/
def Given.value (given : Given) (subject : Subject) : Value :=
  (List.lookup subject given).getD .null

/-- Whether an option without a value was given. -/
def Given.has (given : Given) (subject : Subject) : Bool :=
  (List.lookup subject given).isSome

/-- The settings that the options name; an option that was not given overrides nothing. -/
def overrides (given : Given) : Entries :=
  let always := [
    Settings.entry "input_path" (given.value .input),
    Settings.entry "output_path" (given.value .output),
    Settings.entry "class_name" (given.value .className),
    Settings.entry "path_base" (given.value .pathBase),
    Settings.entry "root_directory" (given.value .rootDirectory)]
  let extensions :=
    if given.has .stripExtensions then [Settings.entry "flatten_extensions" (.bool false)] else []
  -- An empty list of patterns leaves those of the settings file as they are.
  let patterns := match given.value .exclude with
    | .text (c :: rest) =>
      [Settings.entry "exclude_patterns" (.list ((Settings.splitList (c :: rest)).map .text))]
    | _ => []
  let check := if given.has .check then [Settings.entry "check_hardcoded_paths" (.bool true)] else []
  always ++ extensions ++ patterns ++ check

/-- The settings that a command line can override. -/
def overridable : List Text :=
  ["input_path", "output_path", "class_name", "path_base", "root_directory", "flatten_extensions",
    "exclude_patterns", "check_hardcoded_paths"]

/-- A configuration with the settings that override others, those without a value left out. -/
def merge (base overriding : Entries) : Entries :=
  overridable.foldl (fun merged name =>
    match overriding.get? name with
    | none | some .null => merged
    | some value => merged.put name value) base

end AssetCatalog.CommandLine
