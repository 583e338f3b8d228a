import AssetCatalog.Asset.Record
import AssetCatalog.Name

/-! The tree of named groups and constants, grown by one record at a time. -/

namespace AssetCatalog.Asset

/-- A group of assets, a constant for one asset, or both where a directory and a file share a key. -/
structure Node where
  /-- The key that tells the node apart from its siblings. -/
  key : Text
  /-- The identifier that is emitted for the node. -/
  name : Text
  /-- The paths of the files that reached the node, in the order of their records. -/
  sources : List Text
  /-- The directory that the node stands for, where it was reached as a directory. -/
  directory : Option Text
  /-- The path of the first file of the node beneath the asset root, where a file made the node. -/
  relative : Option Text
  /-- The nodes below, in the order in which they were made. -/
  children : List Node
deriving Repr

namespace Node

/-- Whether a node stands for files alone. -/
def isLeaf (node : Node) : Bool :=
  node.directory.isNone

/-- Whether a node stands for a directory and for files at once. -/
def isConflicted (node : Node) : Bool :=
  node.directory.isSome && !node.sources.isEmpty

/-- The constants of a group in ascending order of their names. -/
def leaves (node : Node) : List Node :=
  Text.sortBy Node.name (node.children.filter isLeaf)

/-- The groups of a group in ascending order of their names. -/
def groups (node : Node) : List Node :=
  Text.sortBy Node.name (node.children.filter fun child => !child.isLeaf)

/-- A group without any files, named and keyed by itself. -/
def empty (name : Text) : Node :=
  ⟨[], name, [], some [], none, []⟩

/-- Changes the sibling with a key, or puts a changed new node behind all siblings. -/
def changeSibling (key : Text) (fresh : Node) (change : Node → Node) : List Node → List Node
  | [] => [change fresh]
  | node :: rest =>
    if node.key = key then change node :: rest else node :: changeSibling key fresh change rest

/-- The node that a directory makes when it is the first to reach its key. -/
def ofDirectory (segment path : Text) : Node :=
  ⟨Name.siblingKey segment false, Name.ofText segment false, [], some path, none, []⟩

/-- The node that a file makes when it is the first to reach its key. -/
def ofFile (fileName path : Text) (stripExtension : Bool) : Node :=
  ⟨Name.siblingKey fileName stripExtension, Name.ofText fileName stripExtension, [], none, some path, []⟩

/-- The node with one more source. -/
def addSource (source : Text) (node : Node) : Node :=
  { node with sources := node.sources ++ [source] }

/-- Enters a directory: a node that a file made becomes a group besides. -/
def enter (path : Text) (node : Node) : Node :=
  { node with directory := node.directory.or (some path) }

/-- Puts a file below a group, by way of the given directories. -/
def insertBelow (record : Record) (fileName : Text) : List Text → List Text → Node → Node
  -- The directories already walked give the paths of the nodes that are made on the way.
  | walked, [], node =>
    let strip := !record.flatten
    let fresh := ofFile fileName (Text.joinWith ['/'] (walked ++ [fileName])) strip
    { node with children := changeSibling fresh.key fresh (addSource record.source) node.children }
  | walked, segment :: rest, node =>
    let path := Text.joinWith ['/'] (walked ++ [segment])
    let fresh := ofDirectory segment path
    { node with
      children := changeSibling fresh.key fresh
        (fun child => insertBelow record fileName (walked ++ [segment]) rest (child.enter path))
        node.children }

/-- The node reached by a list of keys. -/
def find? : List Text → Node → Option Node
  | [], node => some node
  | key :: keys, node => (node.children.find? fun child => child.key == key).bind (find? keys)

end Node

/-- The directories of a relative path without the empty ones, and its file name. -/
def segments (relative : Text) : List Text × Text :=
  let raw := relative.splitOn '/'
  (raw.dropLast.filter fun segment => !segment.isEmpty, raw.getLast?.getD [])

/-- The keys from the root to the node that a record reaches. -/
def keyPath (record : Record) (relative : Text) : List Text :=
  let (directories, fileName) := segments relative
  directories.map (Name.siblingKey · false) ++ [Name.siblingKey fileName !record.flatten]

/-- Puts a record into the tree; a path that ends in a separator names no file and changes nothing. -/
def insert (root : Node) (record : Record) (relative : Text) : Node :=
  let (directories, fileName) := segments relative
  if fileName.isEmpty then root
  else Node.insertBelow record fileName [] directories root

/-- The node that a record reached, where its path names a file. -/
def reached? (root : Node) (record : Record) (relative : Text) : Option Node :=
  if (segments relative).2.isEmpty then none else Node.find? (keyPath record relative) root

/-- The tree of all records beneath the asset root, taken in their order. -/
def build (className root : Text) (records : List Record) : Node :=
  records.foldl (fun tree record =>
    match relativePath? root record.source with
    | some relative => insert tree record relative
    | none => tree) (Node.empty className)

end AssetCatalog.Asset
