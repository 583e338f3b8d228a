/-! Text as a list of code points, with the cuts, joins and orders that the catalog's formats use. -/

namespace AssetCatalog

/-- A sequence of code points. -/
abbrev Text := List Char

/-- A string constant stands for its code points. -/
instance : Coe String Text := ⟨String.toList⟩

namespace Text

/-- The pieces in order with a separator between neighbours. -/
def joinWith (separator : Text) (pieces : List Text) : Text :=
  List.intercalate separator pieces

/-- The text with every occurrence of one character exchanged for another. -/
def replaceChar (old new : Char) (text : Text) : Text :=
  text.map fun c => if c = old then new else c

/-- The text without the characters of a class at its end. -/
def trimRight (drop : Char → Bool) (text : Text) : Text :=
  (text.reverse.dropWhile drop).reverse

/-- The text without the characters of a class at either end. -/
def trim (drop : Char → Bool) (text : Text) : Text :=
  trimRight drop (text.dropWhile drop)

/-- The text with every line break as one line feed. -/
def unifyBreaks : Text → Text
  | [] => []
  | '\r' :: '\n' :: rest => '\n' :: unifyBreaks rest
  | '\r' :: rest => '\n' :: unifyBreaks rest
  | c :: rest => c :: unifyBreaks rest

/-- Whether the text begins with the given opening. -/
def startsWith (text opening : Text) : Bool :=
  opening.isPrefixOf text

/-- Whether the text ends with the given ending. -/
def endsWith (text ending : Text) : Bool :=
  ending.isSuffixOf text

/-- Whether the sought text occurs somewhere in the text; the empty text occurs everywhere. -/
def occursIn (sought : Text) : Text → Bool
  | [] => sought.isEmpty
  | c :: rest => sought.isPrefixOf (c :: rest) || occursIn sought rest

/-- The text before the last occurrence of a mark and the text behind it, or nothing without one. -/
def cutLast? (mark : Char) : Text → Option (Text × Text)
  -- A mark farther right wins over the one at hand.
  | [] => none
  | c :: rest =>
    match cutLast? mark rest with
    | some (before, after) => some (c :: before, after)
    | none => if c = mark then some ([], rest) else none

/-- The text before the first occurrence of a mark and the text behind it, or nothing without one. -/
def cutFirst? (mark : Char) : Text → Option (Text × Text)
  | [] => none
  | c :: rest =>
    if c = mark then some ([], rest)
    else (cutFirst? mark rest).map fun (before, after) => (c :: before, after)

/-- The dictionary order on code points: a proper beginning of a text comes before the text. -/
def le : Text → Text → Bool
  | [], _ => true
  | _ :: _, [] => false
  | a :: as, b :: bs => a.toNat < b.toNat || (a == b && le as bs)

/-- Puts an entry before the first one whose key is not smaller than its own. -/
def insertBy {α : Type} (key : α → Text) (entry : α) : List α → List α
  | [] => [entry]
  | other :: rest =>
    if le (key entry) (key other) then entry :: other :: rest
    else other :: insertBy key entry rest

/-- The entries in ascending code point order of their keys; entries of one key keep their order. -/
def sortBy {α : Type} (key : α → Text) (entries : List α) : List α :=
  -- Entries are put in from the last to the first, each before its equals.
  entries.foldr (insertBy key) []

/-- The texts in ascending code point order. -/
def sorted (texts : List Text) : List Text :=
  sortBy id texts

/-- The decimal digits of a natural number. -/
def ofNat (n : Nat) : Text :=
  Nat.toDigits 10 n

/-- The decimal digits of an integer, after a minus sign where it is negative. -/
def ofInt : Int → Text
  | .ofNat n => ofNat n
  | .negSucc n => '-' :: ofNat (n + 1)

/-- The number of bytes that a text takes in UTF-8. -/
def utf8Size (text : Text) : Nat :=
  text.foldr (fun c size => c.utf8Size + size) 0

end Text

end AssetCatalog
