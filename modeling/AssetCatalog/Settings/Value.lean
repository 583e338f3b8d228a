import AssetCatalog.Text

/-! The values that a configuration may hold before anything is known about their types. -/

namespace AssetCatalog

/-- A value of a configuration. -/
inductive Value where
  /-- Nothing. -/
  | null
  /-- A truth value. -/
  | bool (value : Bool)
  /-- A whole number. -/
  | int (value : Int)
  /-- A floating-point number, given by the shortest text that reads back as it. -/
  | real (shortest : Text)
  /-- A text. -/
  | text (value : Text)
  /-- A list. -/
  | list (items : List Value)
  /-- Entries in the order in which their keys came first. -/
  | dict (entries : List (Value × Value))
deriving Repr

namespace Value

/-- The name of the type of a value. -/
def typeName : Value → Text
  | null => "NoneType"
  | bool _ => "bool"
  | int _ => "int"
  | real _ => "float"
  | text _ => "str"
  | list _ => "list"
  | dict _ => "dict"

/-- The number that a key counts as, where it is a truth value or a whole number in any form. -/
def wholeKey? : Value → Option Int
  | bool value => some (if value then 1 else 0)
  | int value => some value
  | real shortest => if shortest = ("0.0" : Text) ∨ shortest = ("-0.0" : Text) then some 0
    else if shortest = ("1.0" : Text) then some 1 else none
  | _ => none

/-- Whether two keys name the same entry; numbers that are equal do. -/
def sameKey (a b : Value) : Bool :=
  match a, b with
  | null, null => true
  | text a, text b => a == b
  | real a, real b => a == b || (wholeKey? (real a)).isSome && wholeKey? (real a) == wholeKey? (real b)
  | a, b => (wholeKey? a).isSome && wholeKey? a == wholeKey? b

/-- Puts an entry: a key keeps its first place and takes the last value. -/
def putEntry (key value : Value) : List (Value × Value) → List (Value × Value)
  | [] => [(key, value)]
  | entry :: rest =>
    if sameKey entry.1 key then (entry.1, value) :: rest else entry :: putEntry key value rest

/-- The dictionary of entries given one after the other. -/
def ofEntries (entries : List (Value × Value)) : Value :=
  dict (entries.foldl (fun found entry => putEntry entry.1 entry.2 found) [])

/-- Whether a value counts as true. -/
def isTruthy : Value → Bool
  | null => false
  | bool value => value
  | int value => value != 0
  | real shortest => shortest != ("0.0" : Text) && shortest != ("-0.0" : Text)
  | text value => !value.isEmpty
  | list items => !items.isEmpty
  | dict entries => !entries.isEmpty

end Value

/-- The entries of a dictionary, in order. -/
abbrev Entries := List (Value × Value)

namespace Entries

/-- The value of the entry with a text as its key, where there is one. -/
def get? (name : Text) (entries : Entries) : Option Value :=
  (entries.find? fun entry => Value.sameKey entry.1 (.text name)).map Prod.snd

/-- Puts an entry with a text as its key. -/
def put (name : Text) (value : Value) (entries : Entries) : Entries :=
  Value.putEntry (.text name) value entries

end Entries

end AssetCatalog
