import AssetCatalog.Unicode.Case

/-! The web paths of assets, and the file name of the module that holds them. -/

namespace AssetCatalog

/-- Joins a path base and a path beneath the asset root with exactly one slash. -/
def webPath (base relative : Text) : Text :=
  -- A base of one dot stands for relative paths.
  let bare := relative.dropWhile (· == '/')
  if base = ['.'] then bare
  else Text.trimRight (· == '/') base ++ '/' :: bare

namespace FileName

/-- Whether a character is an upper-case letter of the Latin alphabet. -/
def isUpper (c : Char) : Bool := 'A' ≤ c && c ≤ 'Z'

/-- Whether a character is a lower-case letter of the Latin alphabet. -/
def isLower (c : Char) : Bool := 'a' ≤ c && c ≤ 'z'

/-- Whether a word starts between a character and the text behind it. -/
def startsWord (before : Char) : Text → Bool
  -- A capital starts a word behind a small letter or a digit, and behind a capital if it is followed by a small letter.
  | [] => false
  | c :: rest =>
    isUpper c && (isLower before || ('0' ≤ before && before ≤ '9')
      || (isUpper before && match rest with
        | [] => false
        | next :: _ => isLower next))

/-- The text behind a character with an underscore before each word. -/
def markWords : Char → Text → Text
  | _, [] => []
  | before, c :: rest =>
    if startsWord before (c :: rest) then '_' :: c :: markWords c rest else c :: markWords c rest

/-- The class name with an underscore between its words, in lower case. -/
def snakeCase (className : Text) : Text :=
  (match className with
    | [] => []
    | c :: rest => c :: markWords c rest : Text).lowerCase

end FileName

/-- The file name of the module for a class. -/
def moduleFileName (className : Text) : Text :=
  FileName.snakeCase className ++ ".py"

end AssetCatalog
