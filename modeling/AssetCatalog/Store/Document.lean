import AssetCatalog.Store.Change

/-! Text files: their text, and writing one only where it differs. -/

namespace AssetCatalog.Store

/-- The path from the root for a path seen from a directory; an empty path stays one. -/
def rooted (directory path : Text) : Text :=
  if path.isEmpty then [] else Path.join directory path

/-- The text of the file at a path seen from a directory, with its line breaks as they are. -/
def readText (store : Store) (directory path : Text) : Except Failure Text :=
  match store.read (rooted directory path) with
  | .error cause => .error (.unusable cause path)
  | .ok content => (Utf8.decode content).mapError .undecodable

/-- The text of the file at a path seen from a directory, with every line break as one line feed. -/
def readLines (store : Store) (directory path : Text) : Except Failure Text :=
  Text.unifyBreaks <$> store.readText directory path

/-- The text of a file, or nothing where there is none. -/
def readText? (store : Store) (directory path : Text) : Except Failure (Option Text) :=
  if store.isFile (rooted directory path) then some <$> store.readText directory path
  else .ok none

/-- Writes a text to a file that does not hold just that text, and tells whether it did. -/
def publish (directory path content : Text) : Change Bool := do
  if (← (← get).readText? directory path) = some content then return false
  else
    makeDirectories (Path.parent (Path.absolute directory path))
    attempt path fun store => store.write (rooted directory path) (Utf8.encode content)
    return true

end AssetCatalog.Store
