import AssetCatalog.Text

/-! Glob patterns: names against wildcards and sets, and paths against patterns segment by segment. -/

namespace AssetCatalog.Glob

/-- What a set of characters lists. -/
inductive SetItem where
  /-- One character. -/
  | single (c : Char)
  /-- All characters from the first to the last. -/
  | range (first last : Char)
deriving DecidableEq, Repr

/-- Whether an item lists a character. -/
def SetItem.holds (c : Char) : SetItem → Bool
  | .single a => c == a
  | .range first last => first ≤ c && c ≤ last

/-- One element of a name pattern. -/
inductive Piece where
  /-- Any text, the empty one included. -/
  | anyText
  /-- Any one character. -/
  | anyChar
  /-- One given character. -/
  | literal (c : Char)
  /-- One character that the items list, or that they do not list. -/
  | oneOf (negated : Bool) (items : List SetItem)
deriving DecidableEq, Repr

/-- The items of a set behind its first character, which may open a range. -/
def itemsAfter (first : Char) : Text → List SetItem
  -- A hyphen between two characters makes a range, and the next one counts behind the character that follows it.
  | '-' :: last :: rest =>
    .range first last :: match rest with
      | [] => []
      | c :: rest => itemsAfter c rest
  | c :: rest => .single first :: itemsAfter c rest
  | [] => [.single first]

/-- The items of a set; an opening exclamation mark opens no range. -/
def items : Text → List SetItem
  | [] => []
  | '!' :: rest =>
    .single '!' :: match rest with
      | [] => []
      | c :: rest => itemsAfter c rest
  | c :: rest => itemsAfter c rest

/-- Whether an item lists at least one character. -/
def SetItem.isInhabited : SetItem → Bool
  | .single _ => true
  | .range first last => first ≤ last

/-- The set between two brackets: ranges in the wrong order vanish, and an opening mark then negates. -/
def setPiece (body : Text) : Piece :=
  match (items body).filter SetItem.isInhabited with
  | .single '!' :: rest => .oneOf true rest
  | .range '!' last :: rest => .oneOf true (.single '-' :: .single last :: rest)
  | rest => .oneOf false rest

/-- The body of a set and the text behind its closing bracket; a bracket at the front closes nothing. -/
def setBody? (text : Text) : Option (Text × Text) :=
  match text with
  | '!' :: ']' :: rest => (Text.cutFirst? ']' rest).map fun (body, after) => ('!' :: ']' :: body, after)
  | '!' :: rest => (Text.cutFirst? ']' rest).map fun (body, after) => ('!' :: body, after)
  | ']' :: rest => (Text.cutFirst? ']' rest).map fun (body, after) => (']' :: body, after)
  | rest => Text.cutFirst? ']' rest

/-- The pieces of a name pattern; each step uses up one character at least. -/
def pieces : Nat → Text → List Piece
  | 0, _ | _, [] => []
  | steps + 1, c :: rest =>
    if c = '*' then .anyText :: pieces steps rest
    else if c = '?' then .anyChar :: pieces steps rest
    else if c = '[' then
      -- A bracket that is never closed stands for itself.
      match setBody? rest with
      | some (body, after) => setPiece body :: pieces steps after
      | none => .literal '[' :: pieces steps rest
    else .literal c :: pieces steps rest

/-- Whether a piece other than the one for any text takes a character. -/
def Piece.takes (c : Char) : Piece → Bool
  | .anyText | .anyChar => true
  | .literal a => c == a
  | .oneOf negated items => items.any (SetItem.holds c) != negated

/-- All endings of a list, the longest first. -/
def endings {α : Type} : List α → List (List α)
  | [] => [[]]
  | x :: rest => (x :: rest) :: endings rest

/-- What may be left of the given rests, longest first, once a piece has been matched. -/
def afterPiece (rests : List Text) (piece : Piece) : List Text :=
  -- Any text leaves every ending of the longest rest.
  match piece, rests with
  | _, [] => []
  | .anyText, longest :: _ => endings longest
  | piece, rests => rests.filterMap fun
    | [] => none
    | c :: rest => if piece.takes c then some rest else none

/-- Whether a name as a whole matches a pattern. -/
def matchesName (pattern name : Text) : Bool :=
  ((pieces pattern.length pattern).foldl afterPiece [name]).any List.isEmpty

/-- Whether path segments match pattern segments; two stars match any number of segments. -/
def matchesSegments : List Text → List Text → Bool
  | [], parts => parts.isEmpty
  | pattern :: patterns, parts =>
    if pattern = ['*', '*'] then (endings parts).any (matchesSegments patterns)
    else match parts with
      | [] => false
      | part :: parts => matchesName pattern part && matchesSegments patterns parts

/-- Whether a path matches a pattern, segment by segment. -/
def matchesPath (pattern path : Text) : Bool :=
  matchesSegments (pattern.splitOn '/') (path.splitOn '/')

/-- The flag of the last pattern that matches a path, or the default where none does. -/
def resolveFlag (default : Bool) (overrides : List (Text × Bool)) (path : Text) : Bool :=
  overrides.foldl (fun flag entry => if matchesPath entry.1 path then entry.2 else flag) default

end AssetCatalog.Glob
