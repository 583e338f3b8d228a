import AssetCatalog.Keyword
import AssetCatalog.Unicode.Case
import AssetCatalog.Unicode.Normal
import AssetCatalog.Unicode.Word

/-! Identifiers made from the names of files and directories, and the keys that siblings share. -/

namespace AssetCatalog.Name

/-- Whether a character ends one word of a file name and starts the next. -/
def isSeparator (c : Char) : Bool :=
  c == '.' || c == '-' || c == '_' || c == ' '

/-- Whether a character of a file name is kept in its identifier: a letter or a decimal digit. -/
def isKept (c : Char) : Bool :=
  Unicode.isLetter c || Unicode.isDecimalDigit c

/-- The upper-case form of a character, or the character itself where that form is longer. -/
def capital (c : Char) : Char :=
  match Unicode.upper c with
  | [u] => u
  | _ => c

/-- The kept characters of a file name, each capitalized that is the first of its word. -/
def joinWords : Bool → Text → Text
  -- The flag says that the next kept character starts a word.
  | _, [] => []
  | start, c :: rest =>
    if isSeparator c then joinWords true rest
    else if isKept c then (if start then capital c else c) :: joinWords false rest
    else joinWords start rest

/-- The characters of the normal form of a name that an identifier may hold. -/
def legalCharacters (name : Text) : Text :=
  (Unicode.nfkc name).filter Unicode.continuesWord

/-- Makes an identifier of joined words: normal form, legal characters, and an underscore as rescue. -/
def finish (name : Text) : Text :=
  -- A leading underscore rescues empty names and leading digits, a trailing one reserved words.
  let legal := legalCharacters name
  let started := if Unicode.isIdentifier legal then legal else '_' :: legal
  if isKeyword started then started ++ ['_'] else started

/-- The file name without its last extension; a leading dot starts no extension. -/
def withoutExtension (fileName : Text) : Text :=
  match Text.cutLast? '.' fileName with
  | some (c :: before, _) => c :: before
  | _ => fileName

/-- The identifier for a file or directory name, with or without the last extension. -/
def ofText (text : Text) (stripExtension : Bool) : Text :=
  finish (joinWords true (if stripExtension then withoutExtension text else text))

/-- The key under which a name is kept among its siblings: the identifier of its lower-case form. -/
def siblingKey (text : Text) (stripExtension : Bool) : Text :=
  ofText text.lowerCase stripExtension

end AssetCatalog.Name
