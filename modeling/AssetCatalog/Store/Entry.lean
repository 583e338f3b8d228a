import AssetCatalog.Text.Utf8

/-! Trees of directories, files and links, looked up and changed at a place given by the names on the way. -/

namespace AssetCatalog.Store

/-- A place in a tree: the names on the way to it. -/
abbrev Place := List Text

/-- What a directory holds under a name. -/
inductive Entry where
  /-- A file. -/
  | file (name : Text) (content : Bytes)
  /-- A link to the path that it holds. -/
  | link (name : Text) (target : Text)
  /-- A directory. -/
  | directory (name : Text) (entries : List Entry)

namespace Entry

/-- The name of an entry. -/
def name : Entry → Text
  | file name _ => name
  | link name _ => name
  | directory name _ => name

/-- The entry under another name. -/
def renamed (name : Text) : Entry → Entry
  | file _ content => file name content
  | link _ target => link name target
  | directory _ entries => directory name entries

/-- What a directory holds; nothing for any other entry. -/
def entries : Entry → List Entry
  | directory _ entries => entries
  | _ => []

/-- Whether an entry is a directory itself. -/
def isDirectory : Entry → Bool
  | directory _ _ => true
  | _ => false

/-- Whether an entry is a file itself. -/
def isFile : Entry → Bool
  | file _ _ => true
  | _ => false

/-- What an entry holds under a name. -/
def child? (name : Text) (entry : Entry) : Option Entry :=
  entry.entries.find? fun child => child.name == name

/-- What stands at a place beneath an entry. -/
def at? : Place → Entry → Option Entry
  | [], entry => some entry
  | name :: place, entry => (entry.child? name).bind (at? place)

/-- The entry with what the directory at a place beneath it holds changed. -/
def change (alter : List Entry → List Entry) : Place → Entry → Entry
  | [], directory name entries => directory name (alter entries)
  | step :: place, directory name entries =>
    directory name (entries.map fun child => if child.name = step then change alter place child else child)
  | _, entry => entry

/-- Entries with one of them exchanged for another of its name, or with a new one at the end. -/
def putAmong (entry : Entry) : List Entry → List Entry
  | [] => [entry]
  | other :: rest => if other.name = entry.name then entry :: rest else other :: putAmong entry rest

/-- Puts an entry into the directory at a place. -/
def put (root : Entry) (place : Place) (entry : Entry) : Entry :=
  change (putAmong entry) place root

/-- Takes the entries of a name out of the directory at a place. -/
def drop (root : Entry) (place : Place) (name : Text) : Entry :=
  change (List.filter fun child => child.name != name) place root

end Entry

end AssetCatalog.Store
