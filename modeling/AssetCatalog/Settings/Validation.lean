import AssetCatalog.Keyword
import AssetCatalog.Settings.Finding
import AssetCatalog.Unicode.Word

/-! Validation: settings from any value, either by repairing what is wrong or by refusing it. -/

namespace AssetCatalog.Settings

/-- How a validation treats a fault. -/
inductive Mode where
  /-- The fault is repaired and noted. -/
  | lenient
  /-- The first fault ends the validation. -/
  | strict
deriving DecidableEq, Repr

/-- A step of a validation, with what was found so far. -/
abbrev Check := StateT (List Finding) (Except Finding)

/-- Notes a finding, or ends a strict validation with it. -/
def report (mode : Mode) (finding : Finding) : Check Unit :=
  match mode, finding.isFault with
  | .strict, true => throw finding
  | _, _ => modify fun found => found ++ [finding]

/-- A text without blanks around it; a blank one and one that is missing give the fallback. -/
def checkText (mode : Mode) (field fallback : Text) : Value → Check Text
  | .null => return fallback
  | .text value => return if value.strip.isEmpty then fallback else value.strip
  | other => do
    report mode (.wrongType field .text other.typeName)
    return fallback

/-- The words for a truth value. -/
def flagWords : List (Text × Bool) :=
  [("true", true), ("1", true), ("yes", true), ("y", true), ("on", true),
    ("false", false), ("0", false), ("no", false), ("n", false), ("off", false)].map
      fun ((word, flag) : String × Bool) => (word.toList, flag)

/-- A truth value; the numbers zero and one and the words for it are converted. -/
def checkFlag (mode : Mode) (field : Text) (fallback : Bool) : Value → Check Bool
  | .bool value => return value
  | .null => return fallback
  | .text value =>
    match flagWords.lookup value.strip.lowerCase with
    | some flag => do
      report mode (.flagFromText field value flag)
      return flag
    | none => do
      report mode (.wrongType field .flag "str")
      return fallback
  | other =>
    -- Numbers are told by their value, however they are written.
    match other.wholeKey? with
    | some 0 => do
      report mode (.flagFromNumber field other)
      return false
    | some 1 => do
      report mode (.flagFromNumber field other)
      return true
    | _ => do
      report mode (.wrongType field .flag other.typeName)
      return fallback

/-- The parts of a text between commas, without blanks around them, those that are blank left out. -/
def splitList (text : Text) : List Text :=
  ((text.splitOn ',').map Text.strip).filter fun part => !part.isEmpty

/-- The texts among the items of a list from an index on, without blanks around them. -/
def checkItems (mode : Mode) (field : Text) : Nat → List Value → Check (List Text)
  | _, [] => return []
  | index, .text value :: items => do
    let rest ← checkItems mode field (index + 1) items
    return if value.strip.isEmpty then rest else value.strip :: rest
  | index, _ :: items => do
    report mode (.badItem field index)
    checkItems mode field (index + 1) items

/-- A list of texts; a lone text is taken apart at its commas. -/
def checkTexts (mode : Mode) (field : Text) (fallback : List Text) : Value → Check (List Text)
  | .null => return fallback
  | .text value => do
    report mode (.listFromText field)
    return splitList value
  | .list items => checkItems mode field 0 items
  | other => do
    report mode (.wrongType field .texts other.typeName)
    return fallback

/-- Puts a flag: a pattern keeps its first place and takes the last flag. -/
def putFlag (pattern : Text) (flag : Bool) : List (Text × Bool) → List (Text × Bool)
  | [] => [(pattern, flag)]
  | entry :: rest =>
    if entry.1 = pattern then (pattern, flag) :: rest else entry :: putFlag pattern flag rest

/-- The flags of the entries of a dictionary, after those found before. -/
def checkOverrides (mode : Mode) (field : Text) (found : List (Text × Bool)) :
    Entries → Check (List (Text × Bool))
  | [] => return found
  | (.text pattern, value) :: entries => do
    if pattern.strip.isEmpty then
      report mode (.badPattern field)
      checkOverrides mode field found entries
    else
      let flag ← checkFlag mode (field ++ "[" ++ pattern ++ "]") true value
      -- Patterns that differ only in the blanks around them are one.
      checkOverrides mode field (putFlag pattern.strip flag found) entries
  | _ :: entries => do
    report mode (.badPattern field)
    checkOverrides mode field found entries

/-- A dictionary from patterns to flags. -/
def checkFlags (mode : Mode) (field : Text) : Value → Check (List (Text × Bool))
  | .null => return []
  | .dict entries => checkOverrides mode field [] entries
  | other => do
    report mode (.wrongType field .flags other.typeName)
    return []

/-- A class name that can be written as a name of the emitted module. -/
def checkClassName (mode : Mode) (fallback name : Text) : Check Text := do
  if Unicode.isIdentifier name && !isKeyword name then return name
  else
    report mode (.badClassName name fallback)
    return fallback

/-- A root directory that is one path segment, without separators around it. -/
def checkRootDirectory (mode : Mode) (fallback name : Text) : Check Text := do
  let cleaned := Text.trim (· == '/') (Text.replaceChar '\\' '/' name)
  if !cleaned.isEmpty && !cleaned.contains '/' then
    if cleaned ≠ name then report mode (.rootDirectoryCleaned name cleaned)
    return cleaned
  else
    report mode (.badRootDirectory name fallback)
    return fallback

/-- The output path, for which a value of another type counts as empty. -/
def outputText : Value → Text
  | .text value => value.strip
  | _ => []

/-- The settings in the entries of a dictionary, over the given defaults. -/
def checkEntries (mode : Mode) (defaults : Settings) (entries : Entries) : Check Settings := do
  -- A name is judged after the types of all fields, and an absent field counts as one without a value.
  let field (name : Text) : Value := (entries.get? name).getD .null
  -- Of the defaults only the working directory is not known to pass its check as it is.
  let inputPath ← checkText mode "input_path" defaults.inputPath
    ((entries.get? "input_path").getD (.text defaults.inputPath))
  let className ← checkText mode "class_name" defaults.className (field "class_name")
  let pathBase ← checkText mode "path_base" defaults.pathBase (field "path_base")
  let rootDirectory ← checkText mode "root_directory" defaults.rootDirectory (field "root_directory")
  let flattenExtensions ←
    checkFlag mode "flatten_extensions" defaults.flattenExtensions (field "flatten_extensions")
  let checkHardcodedPaths ←
    checkFlag mode "check_hardcoded_paths" defaults.checkHardcodedPaths (field "check_hardcoded_paths")
  let excludePatterns ←
    checkTexts mode "exclude_patterns" defaults.excludePatterns (field "exclude_patterns")
  let flattenOverrides ← checkFlags mode "flatten_overrides" (field "flatten_overrides")
  let className ← checkClassName mode defaults.className className
  let rootDirectory ← checkRootDirectory mode defaults.rootDirectory rootDirectory
  return {
    inputPath, className, pathBase, rootDirectory, flattenExtensions, checkHardcodedPaths
    excludePatterns, flattenOverrides
    outputPath := outputText (field "output_path")
    others := entries.filter fun entry => !isFieldName entry.1 }

/-- The settings in a value, and what was found on the way, in order. -/
def validate (mode : Mode) (workingDirectory : Text) (config : Value) :
    Except Finding (Settings × List Finding) :=
  match config with
  | .dict entries => (checkEntries mode (defaults workingDirectory) entries).run []
  | other => do
    let ((), found) ← (report mode (.notDictionary other.typeName)).run []
    return (defaults workingDirectory, found)

end AssetCatalog.Settings
