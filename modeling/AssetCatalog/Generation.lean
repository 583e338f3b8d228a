import AssetCatalog.Asset.Keys
import AssetCatalog.Module.Layout

/-! One run over a set of records: no assets, duplicate keys, or the text of a module. -/

namespace AssetCatalog

open Asset (Record Claim)

/-- What the settings of a run say about the emitted module. -/
structure Target where
  /-- The name of the outermost class. -/
  className : Text := "StaticAssets"
  /-- What every web path starts with. -/
  pathBase : Text := "/"
  /-- The name of the directory beneath which assets lie. -/
  rootDirectory : Text := "wwwroot"
deriving DecidableEq, Repr

/-- How a run ended. -/
inductive Outcome where
  /-- No record names a file beneath the asset root. -/
  | nothing
  /-- Keys are claimed more than once, and no module is emitted. -/
  | blocked (duplicates : List Claim)
  /-- The module has this text. -/
  | emitted (source : Text)
deriving Repr

/-- A run over a set of records. -/
structure Generation where
  /-- The name of the outermost class. -/
  className : Text
  /-- The number of records beneath the asset root. -/
  assetCount : Nat
  /-- How the run ended. -/
  outcome : Outcome
deriving Repr

namespace Generation

/-- Whether the run was free of duplicate keys. -/
def ok (generation : Generation) : Bool :=
  match generation.outcome with
  | .blocked _ => false
  | _ => true

/-- The text of the module, empty where none was emitted. -/
def source (generation : Generation) : Text :=
  match generation.outcome with
  | .emitted source => source
  | _ => []

/-- The file name of the module, empty where none was emitted. -/
def sourceName (generation : Generation) : Text :=
  match generation.outcome with
  | .emitted _ => moduleFileName generation.className
  | _ => []

/-- The keys that are claimed more than once. -/
def duplicates (generation : Generation) : List Claim :=
  match generation.outcome with
  | .blocked duplicates => duplicates
  | _ => []

/-- One error for each source of each duplicate key. -/
def diagnostics (generation : Generation) : List Diagnostic :=
  Asset.collisionErrors generation.duplicates

end Generation

/-- Builds the tree of the records, looks for duplicate keys, and emits the module if there are none. -/
def generate (records : List Record) (target : Target) : Generation :=
  -- Without files there is nothing to emit, whether or not records lie beneath the asset root.
  let assets := Asset.beneath target.rootDirectory records
  let tree := Asset.build target.className target.rootDirectory assets
  let duplicates := Asset.collisions tree
  { className := target.className
    assetCount := assets.length
    outcome :=
      if tree.children.isEmpty then .nothing
      else if duplicates.isEmpty then .emitted (Layout.moduleText target.pathBase tree)
      else .blocked duplicates }

end AssetCatalog
