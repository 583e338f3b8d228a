import AssetCatalog.Store.Basic

/-! Changes of a store: new directories and links, written and removed files. -/

namespace AssetCatalog.Store

/-- A change of a store, which may fail halfway; what was done before stays done. -/
abbrev Change := ExceptT Failure (StateM Store)

/-- The store with an entry at a place, under the last name on the way to it. -/
def putAt (store : Store) (place : Place) (entry : Entry) : Store where
  root := store.root.put place.dropLast (entry.renamed (place.getLast?.getD []))

/-- The store without what stands at a place. -/
def dropAt (store : Store) (place : Place) : Store where
  root := store.root.drop place.dropLast (place.getLast?.getD [])

/-- The place of a path at which something new can be put. -/
def freePlace (store : Store) (path : Text) : Except Cause Place := do
  let place ← store.place path false
  if (store.root.at? place).isSome then throw .taken
  return place

/-- The store with a new directory at a path. -/
def makeDirectory (store : Store) (path : Text) : Except Cause Store := do
  return store.putAt (← store.freePlace path) (.directory [] [])

/-- The store with a new link at a path. -/
def makeLink (store : Store) (path target : Text) : Except Cause Store := do
  return store.putAt (← store.freePlace path) (.link [] target)

/-- The place of a path at which a file is or can be. -/
def filePlace (store : Store) (path : Text) : Except Cause Place := do
  -- With a separator at its end a path cannot be a file's, once there is a directory to look into.
  let named := Text.trimRight (· == '/') path
  if named.length < path.length then
    let _ ← store.place (Path.parent named ++ "/.") true
    throw .isDirectory
  else
    let place ← store.place path true
    if (store.root.at? place).any Entry.isDirectory then throw .isDirectory
    return place

/-- The store with a file at a path that holds the given bytes and no others. -/
def write (store : Store) (path : Text) (content : Bytes) : Except Cause Store := do
  return store.putAt (← store.filePlace path) (.file [] content)

/-- The store with bytes added to the file at a path. -/
def append (store : Store) (path : Text) (content : Bytes) : Except Cause Store := do
  let place ← store.filePlace path
  let before := match store.root.at? place with
    | some (.file _ content) => content
    | _ => []
  return store.putAt place (.file [] (before ++ content))

/-- The store without what is at a path, a directory with all that it holds. -/
def remove (store : Store) (path : Text) : Except Cause Store := do
  let place ← store.place path false
  if (store.root.at? place).isNone then throw .missing
  return store.dropAt place

/-- The store with what is at a path moved to another one, where it replaces a file. -/
def move (store : Store) (path target : Text) : Except Cause Store := do
  let place ← store.place path false
  let goal ← store.place target false
  match store.root.at? place with
  | none => throw .missing
  | some entry =>
    if (store.root.at? goal).any Entry.isDirectory then throw .isDirectory
    return (store.dropAt place).putAt goal entry

/-- Does one change, or fails with the path at which it cannot be done. -/
def attempt (path : Text) (change : Store → Except Cause Store) : Change Unit := do
  match change (← get) with
  | .ok store => set store
  | .error cause => throw (.unusable cause path)

/-- Makes a directory where there is none, and before it the directories on the way that are missing. -/
def makeDirectories (path : Text) : Change Unit := do
  -- What is no directory but in the way is found out one step farther on.
  if _ : (Path.parent path).length < path.length then
    if !(← get).contains (Path.parent path) then
      tryCatch (makeDirectories (Path.parent path)) fun failure =>
        match failure with
        | .unusable .taken _ => pure ()
        | other => throw other
  if !(← get).isDirectory path then attempt path fun store => store.makeDirectory path
termination_by path.length

end AssetCatalog.Store
