import AssetCatalog.Asset.Tree

/-! The ways from the asset root to the files, of which a tree of assets is made. -/

namespace AssetCatalog.Asset

/-- A record that names a file beneath the asset root, with the way that leads to the file. -/
structure Route where
  /-- The record that names the file. -/
  record : Record
  /-- The directories beneath the asset root, from the top down and without the empty ones. -/
  directories : List Text
  /-- The name of the file. -/
  fileName : Text
deriving DecidableEq, Repr

namespace Route

/-- The route of a record, unless it lies elsewhere or its path ends in a separator. -/
def ofRecord? (root : Text) (record : Record) : Option Route :=
  -- A path that ends in a separator has an empty file name.
  (relativePath? root record.source).bind fun relative =>
    let (directories, fileName) := segments relative
    if fileName.isEmpty then none else some ⟨record, directories, fileName⟩

/-- The names on the way, each with whether its extension is dropped. -/
def steps (route : Route) : List (Text × Bool) :=
  -- The names of directories keep their extensions.
  route.directories.map (·, false) ++ [(route.fileName, !route.record.flatten)]

/-- The sibling keys on the way. -/
def keys (route : Route) : List Text :=
  route.steps.map fun step => Name.siblingKey step.1 step.2

/-- The identifiers on the way, as this route spells them. -/
def names (route : Route) : List Text :=
  route.steps.map fun step => Name.ofText step.1 step.2

/-- The path of the file beneath the asset root, without empty segments. -/
def path (route : Route) : Text :=
  Text.joinWith ['/'] (route.directories ++ [route.fileName])

/-- The path beneath the asset root of the directory that the route enters at a depth. -/
def directoryPath (route : Route) (depth : Nat) : Text :=
  -- The depth counts the directories on the way, the one that is entered included.
  Text.joinWith ['/'] (route.directories.take depth)

/-- Whether the route leads to or through the node with the given keys. -/
def Reaches (keys : List Text) (route : Route) : Prop :=
  keys <+: route.keys

/-- Whether the route leads through the node with the given keys to a file farther down. -/
def Passes (keys : List Text) (route : Route) : Prop :=
  keys <+: route.keys ∧ keys ≠ route.keys

instance (keys : List Text) (route : Route) : Decidable (Reaches keys route) :=
  inferInstanceAs (Decidable (keys <+: route.keys))

instance (keys : List Text) (route : Route) : Decidable (Passes keys route) :=
  inferInstanceAs (Decidable (keys <+: route.keys ∧ keys ≠ route.keys))

/-- Puts the file of a route into a tree. -/
def insertInto (tree : Node) (route : Route) : Node :=
  Node.insertBelow route.record route.fileName [] route.directories tree

/-- The keys of a route lead through its directories to its file. -/
theorem keys_eq (route : Route) :
    route.keys = route.directories.map (Name.siblingKey · false) ++
      [Name.siblingKey route.fileName !route.record.flatten] := by
  simp [keys, steps, Function.comp_def]

/-- A route has one key for each directory and one for its file. -/
@[simp] theorem length_keys (route : Route) :
    route.keys.length = route.directories.length + 1 := by
  simp [keys_eq]

/-- A route has an identifier for each of its keys. -/
@[simp] theorem length_names (route : Route) : route.names.length = route.keys.length := by
  simp [names, keys]

/-- No route ends at the root of the tree. -/
theorem keys_ne_nil (route : Route) : route.keys ≠ [] := by
  simp [keys_eq]

/-- A route ends at a node or passes it exactly when it reaches the node. -/
theorem reaches_iff (keys : List Text) (route : Route) :
    Reaches keys route ↔ Passes keys route ∨ route.keys = keys := by
  -- A prefix is either proper or the whole of the keys.
  unfold Reaches Passes
  constructor
  · intro reached
    by_cases same : keys = route.keys
    · exact .inr same.symm
    · exact .inl ⟨reached, same⟩
  · rintro (passed | rfl)
    · exact passed.1
    · exact List.prefix_rfl

/-- A route that passes a node does not end there. -/
theorem Passes.ne {keys : List Text} {route : Route} (passed : Passes keys route) :
    route.keys ≠ keys :=
  fun same => passed.2 same.symm

end Route

/-- The routes of all records that name a file beneath the asset root, in the order of the records. -/
def routes (root : Text) (records : List Record) : List Route :=
  records.filterMap (Route.ofRecord? root)

/-- The tree of the records is made by putting in the files of their routes one after the other. -/
theorem build_eq_foldl_routes (className root : Text) (records : List Record) :
    build className root records =
      (routes root records).foldl Route.insertInto (Node.empty className) := by
  -- A record without a route leaves the tree as it is, wherever the tree comes from.
  unfold build routes
  generalize Node.empty className = tree
  induction records generalizing tree with
  | nil => rfl
  | cons record rest ih =>
    rw [List.foldl_cons, List.filterMap_cons]
    cases placed : relativePath? root record.source with
    | none =>
      have lost : Route.ofRecord? root record = none := by simp [Route.ofRecord?, placed]
      simpa only [lost] using ih tree
    | some relative =>
      -- A path that ends in a separator names no file.
      by_cases unnamed : (segments relative).2 = []
      · have lost : Route.ofRecord? root record = none := by
          simp [Route.ofRecord?, placed, unnamed]
        simpa [lost, insert, unnamed] using ih tree
      · have found : Route.ofRecord? root record =
            some ⟨record, (segments relative).1, (segments relative).2⟩ := by
          simp [Route.ofRecord?, placed, unnamed]
        simpa [found, insert, unnamed, Route.insertInto] using ih _

end AssetCatalog.Asset
