import AssetCatalog.Path.Basic
import AssetCatalog.Store.Entry
import AssetCatalog.Store.Failure

/-! A store of files, asked by paths: which place a path leads to, and what is there. -/

namespace AssetCatalog

/-- A store of files: everything beneath its root. -/
structure Store where
  /-- The root, which is a directory without a name. -/
  root : Store.Entry := .directory [] []

namespace Store

/-- Goes the steps of a path from a place on; a link on the way is left to the given function. -/
def walk (root : Entry) (followsLast : Bool) (onLink : Place → List Text → Except Cause Place) :
    Place → List Text → Except Cause Place
  | place, [] => .ok place
  | place, step :: steps =>
    -- Only a directory can be left by a step, and only the last step may lead to nothing.
    if !((root.at? place).any Entry.isDirectory) then .error .notDirectory
    else if step.isEmpty || step = ['.'] then walk root followsLast onLink place steps
    else if step = ['.', '.'] then walk root followsLast onLink place.dropLast steps
    else if 255 < Text.utf8Size step then .error .nameTooLong
    else match root.at? (place ++ [step]) with
      | none => if steps.isEmpty then .ok (place ++ [step]) else .error .missing
      | some (.link _ target) =>
        if steps.isEmpty && !followsLast then .ok (place ++ [step])
        else onLink (if Path.isAbsolute target then [] else place) (target.splitOn '/' ++ steps)
      | some _ => walk root followsLast onLink (place ++ [step]) steps

/-- Goes the steps of a path with at most so many links on the way. -/
def follow (root : Entry) (followsLast : Bool) : Nat → Place → List Text → Except Cause Place
  | 0 => walk root followsLast fun _ _ => .error .tooManyLinks
  | links + 1 => walk root followsLast (follow root followsLast links)

/-- The greatest number of links on the way to a place. -/
def linkLimit : Nat := 40

/-- The place that a path from the root leads to, where there need not be anything. -/
def place (store : Store) (path : Text) (followsLast : Bool) : Except Cause Place :=
  if path.isEmpty then .error .missing
  else follow store.root followsLast linkLimit [] (path.splitOn '/')

/-- What a path leads to, all links followed. -/
def find? (store : Store) (path : Text) : Option Entry :=
  match store.place path true with
  | .ok place => store.root.at? place
  | .error _ => none

/-- Whether a path leads to something. -/
def contains (store : Store) (path : Text) : Bool :=
  (store.find? path).isSome

/-- Whether a path leads to a file. -/
def isFile (store : Store) (path : Text) : Bool :=
  (store.find? path).any Entry.isFile

/-- Whether a path leads to a directory. -/
def isDirectory (store : Store) (path : Text) : Bool :=
  (store.find? path).any Entry.isDirectory

/-- The content of the file that a path leads to. -/
def read (store : Store) (path : Text) : Except Cause Bytes := do
  match store.root.at? (← store.place path true) with
  | some (.file _ content) => return content
  | some (.directory _ _) => throw .isDirectory
  | _ => throw .missing

end Store

end AssetCatalog
