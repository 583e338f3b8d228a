import AssetCatalog.Text

/-! The findings of a run: duplicate keys, which block it, and hardcoded paths, which do not. -/

namespace AssetCatalog

/-- How grave a finding is; the words besides the two known ones block nothing. -/
inductive Severity where
  /-- The finding blocks the build. -/
  | error
  /-- The finding never blocks. -/
  | warning
  /-- A severity of some other name. -/
  | other (name : Text)
deriving DecidableEq, Repr

/-- The name of a severity. -/
def Severity.name : Severity → Text
  | .error => "error"
  | .warning => "warning"
  | .other name => name

/-- The severity with a name. -/
def Severity.ofName (name : Text) : Severity :=
  if name = ("error" : Text) then .error
  else if name = ("warning" : Text) then .warning
  else .other name

/-- One reportable finding. -/
structure Diagnostic where
  /-- The stable code of the kind of finding. -/
  code : Text
  /-- How grave the finding is. -/
  severity : Severity
  /-- What was found. -/
  message : Text
  /-- The file that the finding is about. -/
  path : Option Text := none
  /-- The line, counted from one. -/
  line : Option Int := none
  /-- The column, counted from one. -/
  column : Option Int := none
deriving DecidableEq, Repr

namespace Diagnostic

/-- Whether a finding blocks the build. -/
def isError (diagnostic : Diagnostic) : Bool :=
  diagnostic.severity == .error

/-- The finding on one line, with its place in front where the file and the line are known. -/
def format (diagnostic : Diagnostic) : Text :=
  -- A column that is unknown or zero is written as one.
  let column := match diagnostic.column with
    | some value => if value = 0 then 1 else value
    | none => 1
  let bare : Text := diagnostic.severity.name ++ " " ++ diagnostic.code ++ ": " ++ diagnostic.message
  match diagnostic.path, diagnostic.line with
  | some path, some line =>
    if path.isEmpty then bare
    else path ++ ":" ++ Text.ofInt line ++ ":" ++ Text.ofInt column ++ ": " ++ diagnostic.code ++ " "
      ++ diagnostic.message
  | _, _ => bare

/-- The error for one file of a group of files that share a key. -/
def duplicateKey (key path : Text) : Diagnostic where
  code := "ASSET001"
  severity := .error
  message := "Multiple assets map to the same key '" ++ key ++ "'. Conflicting file: " ++ path
    ++ ". Consider using different file names or folder structure."
  path := some path

/-- The warning for one text in a source that spells out the path of an asset. -/
def hardcodedPath (value className : Text) (path : Option Text) (line column : Option Int) :
    Diagnostic where
  code := "ASSET002"
  severity := .warning
  message := "Hardcoded path '" ++ value ++ "' should use " ++ className
    ++ " class for compile-time safety"
  path := path
  line := line
  column := column

end Diagnostic

end AssetCatalog
