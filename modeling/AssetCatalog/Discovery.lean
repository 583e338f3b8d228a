import AssetCatalog.Asset.Record
import AssetCatalog.Exclusion
import AssetCatalog.Glob
import AssetCatalog.Store.Basic

/-! The files beneath a directory in a fixed order: the assets among them, and the sources. -/

namespace AssetCatalog.Discovery

open Store (Entry Place)

/-- Whether an entry of the directory at a place leads to a directory. -/
def leadsToDirectory (store : Store) (place : Place) (entry : Entry) : Bool :=
  match entry with
  | .file _ _ => false
  | .directory _ _ => true
  | .link name _ =>
    match Store.follow store.root true Store.linkLimit place [name] with
    | .ok goal => (store.root.at? goal).any Entry.isDirectory
    | .error _ => false

/-- The names of what a directory holds besides directories, in order, without those to skip. -/
def fileNames (store : Store) (skips : Text → Bool) (place : Place) (entries : List Entry) : List Text :=
  Text.sorted ((entries.filter fun entry =>
    !leadsToDirectory store place entry && !skips entry.name).map Entry.name)

mutual

/-- The paths of the files beneath a directory: first its own, then those of each directory in it. -/
def filesIn (store : Store) (skips : Text → Bool) (path : Text) (place : Place) : Entry → List Text
  | .directory _ entries =>
    (fileNames store skips place entries).map (Path.join path)
      ++ (Text.sortBy Prod.fst (filesInEach store skips path place entries)).flatMap Prod.snd
  | _ => []

/-- The names of directories with the paths of the files beneath them; links are not gone into. -/
def filesInEach (store : Store) (skips : Text → Bool) (path : Text) (place : Place) :
    List Entry → List (Text × List Text)
  | [] => []
  | .directory name entries :: rest =>
    if skips name then filesInEach store skips path place rest
    else
      (name, filesIn store skips (Path.join path name) (place ++ [name]) (.directory name entries))
        :: filesInEach store skips path place rest
  | _ :: rest => filesInEach store skips path place rest

end

/-- The paths of the files beneath the directory at a path, none where there is no directory. -/
def files (store : Store) (exclusions : List Exclusion) (directory : Text) : List Text :=
  match store.place directory true with
  | .error _ => []
  | .ok place =>
    match store.root.at? place with
    | some entry => filesIn store (Exclusion.matchesAny exclusions) directory place entry
    | none => []

/-- The record of a file, where it lies beneath the asset root. -/
def record? (rootDirectory : Text) (default : Bool) (overrides : List (Text × Bool)) (path : Text) :
    Option Asset.Record :=
  (Asset.relativePath? rootDirectory path).map fun relative =>
    { source := path, flatten := Glob.resolveFlag default overrides relative }

/-- The records of the assets beneath the directory at a path. -/
def assets (store : Store) (exclusions : List Exclusion) (rootDirectory : Text) (default : Bool)
    (overrides : List (Text × Bool)) (directory : Text) : List Asset.Record :=
  (files store exclusions directory).filterMap (record? rootDirectory default overrides)

/-- The paths of the sources beneath the directory at a path: the files with one of some extensions. -/
def sources (store : Store) (exclusions : List Exclusion) (extensions left : List Text)
    (directory : Text) : List Text :=
  (files store exclusions directory).filter fun path =>
    extensions.contains (Path.extension path) && !left.contains path

end AssetCatalog.Discovery
