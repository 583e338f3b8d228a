import AssetCatalog.Settings.Basic

/-! What a validation finds, worded as a notice about what was done and as a refusal. -/

namespace AssetCatalog.Settings

/-- What a setting, or the whole configuration, is asked to be. -/
inductive Shape where
  /-- A dictionary of settings. -/
  | dictionary
  /-- A text. -/
  | text
  /-- A truth value. -/
  | flag
  /-- A list of texts. -/
  | texts
  /-- A dictionary from texts to truth values. -/
  | flags
deriving DecidableEq, Repr

/-- The name of a shape. -/
def Shape.name : Shape → Text
  | dictionary => "dict"
  | text => "str"
  | flag => "bool"
  | texts => "list[str]"
  | flags => "dict[str, bool]"

/-- What a validation finds. -/
inductive Finding where
  /-- The configuration is no dictionary. -/
  | notDictionary (found : Text)
  /-- A field holds a value of another type. -/
  | wrongType (field : Text) (expected : Shape) (found : Text)
  /-- A number stands for a truth value. -/
  | flagFromNumber (field : Text) (number : Value)
  /-- A text stands for a truth value. -/
  | flagFromText (field text : Text) (flag : Bool)
  /-- A text stands for a list of texts. -/
  | listFromText (field : Text)
  /-- An item of a list is no text. -/
  | badItem (field : Text) (index : Nat)
  /-- A key of a dictionary is no text, or is blank. -/
  | badPattern (field : Text)
  /-- The class name cannot be written as a name. -/
  | badClassName (name fallback : Text)
  /-- The root directory is not one path segment. -/
  | badRootDirectory (name fallback : Text)
  /-- The root directory was written with separators around it. -/
  | rootDirectoryCleaned (name cleaned : Text)
deriving Repr

namespace Finding

/-- Whether a strict validation refuses a configuration for this. -/
def isFault : Finding → Bool
  | rootDirectoryCleaned _ _ => false
  | _ => true

/-- The wording for a value of another type. -/
def expectation (subject : Text) (expected : Shape) (found : Text) : Text :=
  "Invalid " ++ subject ++ ": expected " ++ expected.name ++ ", received " ++ found ++ "."

/-- The name of a field in a message. -/
def fieldSubject (field : Text) : Text :=
  "field '" ++ field ++ "'"

/-- The wording of the refusal for a finding. -/
def refusal : Finding → Text
  | notDictionary found => expectation "config type" .dictionary found
  -- The findings about types share one wording, whatever is done about them.
  | wrongType field expected found => expectation (fieldSubject field) expected found
  | flagFromNumber field number => expectation (fieldSubject field) .flag number.typeName
  | flagFromText field _ _ => expectation (fieldSubject field) .flag "str"
  | listFromText field => expectation (fieldSubject field) .texts "str"
  | badItem field index => "Invalid item in '" ++ field ++ "[" ++ Text.ofNat index ++ "]': expected str."
  | badPattern field => "Invalid pattern in '" ++ field ++ "': expected non-empty str."
  | badClassName name _ => "Invalid class name '" ++ name ++ "': not a valid Python identifier."
  | badRootDirectory name _ => "Invalid root directory '" ++ name ++ "': must be a single directory name."
  | rootDirectoryCleaned name cleaned =>
    "Root directory '" ++ name ++ "' normalized to '" ++ cleaned ++ "'."

/-- The text of a number. -/
def numberText : Value → Text
  | .int value => Text.ofInt value
  | .real shortest => shortest
  | _ => []

/-- The wording of the notice about what was done with a finding. -/
def notice (finding : Finding) : Text :=
  match finding with
  | notDictionary _ => finding.refusal ++ " Using defaults."
  | wrongType _ _ _ => finding.refusal ++ " Using fallback."
  | flagFromNumber field number =>
    "Field '" ++ field ++ "' converted from number " ++ numberText number ++ " to bool."
  | flagFromText field text flag =>
    "Field '" ++ field ++ "' converted from '" ++ text ++ "' to " ++ (if flag then "True" else "False") ++ "."
  | listFromText field => "Field '" ++ field ++ "' converted from CSV string to list."
  | badItem _ _ => finding.refusal ++ " Item discarded."
  | badPattern _ => finding.refusal ++ " Entry discarded."
  | badClassName _ fallback => finding.refusal ++ " Using '" ++ fallback ++ "'."
  | badRootDirectory _ fallback => finding.refusal ++ " Using '" ++ fallback ++ "'."
  | rootDirectoryCleaned _ _ => finding.refusal

end Finding

end AssetCatalog.Settings
