import AssetCatalog.Proofs.Asset.Conflicts
import Mathlib.Data.List.Forall2

/-! Files that lie elsewhere, at the same paths beneath the asset root: their trees differ in their sources alone. -/

namespace AssetCatalog.Asset

open List (Forall₂)

/-- Of two lists that are paired, both are empty or neither. -/
theorem isEmpty_eq_of_forall₂ {α β : Type} {related : α → β → Prop} {first : List α} {second : List β}
    (each : Forall₂ related first second) : first.isEmpty = second.isEmpty := by
  cases each <;> rfl

/--
Whether two nodes are the same but for their sources, and so are the nodes below them.

The sources are paired, one by one in their order.
-/
inductive Node.Twins (paired : Text → Text → Prop) : Node → Node → Prop
  | intro {node twin : Node} (key : node.key = twin.key) (name : node.name = twin.name)
      (directory : node.directory = twin.directory) (relative : node.relative = twin.relative)
      (sources : Forall₂ paired node.sources twin.sources) (lengths : node.children.length = twin.children.length)
      (below : ∀ position within alsoWithin,
        Twins paired (node.children.get ⟨position, within⟩) (twin.children.get ⟨position, alsoWithin⟩)) :
      Twins paired node twin

namespace Node

variable {paired : Text → Text → Prop}

namespace Twins

variable {node twin : Node}

/-- Twins have the same key. -/
theorem key_eq (twins : Twins paired node twin) : node.key = twin.key := by
  cases twins
  assumption

/-- Twins have the same name. -/
theorem name_eq (twins : Twins paired node twin) : node.name = twin.name := by
  cases twins
  assumption

/-- The children of twins are twins. -/
theorem children (twins : Twins paired node twin) : Forall₂ (Twins paired) node.children twin.children := by
  obtain ⟨-, -, -, -, -, lengths, below⟩ := twins
  exact List.forall₂_iff_get.mpr ⟨lengths, below⟩

/-- With other children that are twins, twins stay twins. -/
theorem withChildren (twins : Twins paired node twin) {children others : List Node}
    (each : Forall₂ (Twins paired) children others) :
    Twins paired { node with children := children } { twin with children := others } := by
  -- Twins ask of children only that there be as many and that they be twins in pairs.
  obtain ⟨key, name, directory, relative, sources, -, -⟩ := twins
  obtain ⟨lengths, below⟩ := List.forall₂_iff_get.mp each
  exact ⟨key, name, directory, relative, sources, lengths, below⟩

/-- A node without sources and children is its own twin. -/
theorem bare {node : Node} (sources : node.sources = []) (children : node.children = []) : Twins paired node node := by
  -- Nothing has to be paired in a node without sources and children.
  refine ⟨rfl, rfl, rfl, rfl, by rw [sources]; exact .nil, rfl, fun position within => ?_⟩
  simp [children] at within

/-- Twins enter a directory alike. -/
theorem enter (twins : Twins paired node twin) (path : Text) : Twins paired (node.enter path) (twin.enter path) := by
  -- Both have the same directory or none, so the path goes to both or to neither.
  obtain ⟨key, name, directory, relative, sources, lengths, below⟩ := twins
  exact ⟨key, name, congrArg (·.or (some path)) directory, relative, sources, lengths, below⟩

/-- Twins stay twins when each gets one source of a pair. -/
theorem addSource (twins : Twins paired node twin) {source other : Text} (pair : paired source other) :
    Twins paired (node.addSource source) (twin.addSource other) := by
  obtain ⟨key, name, directory, relative, sources, lengths, below⟩ := twins
  exact ⟨key, name, directory, relative, List.rel_append sources (.cons pair .nil), lengths, below⟩

/-- Twins among siblings are changed alike. -/
theorem changeSibling {siblings others : List Node} {key : Text} {fresh : Node} {change alsoChange : Node → Node}
    (each : Forall₂ (Twins paired) siblings others) (bare : Twins paired fresh fresh)
    (changed : ∀ {node twin}, Twins paired node twin → Twins paired (change node) (alsoChange twin)) :
    Forall₂ (Twins paired) (Node.changeSibling key fresh change siblings)
      (Node.changeSibling key fresh alsoChange others) := by
  -- The siblings with the key stand at one position, or both changes make a new one.
  induction each with
  | nil => exact .cons (changed bare) .nil
  | @cons sibling other _ _ twins rest ih =>
    rw [Node.changeSibling, Node.changeSibling, ← twins.key_eq]
    split
    · exact .cons (changed twins) rest
    · exact .cons twins ih

/-- Files of one name at the end of one way, named alike, keep trees twins. -/
theorem insertBelow {record other : Record} (fileName : Text) (directories : List Text)
    (flatten : record.flatten = other.flatten) (pair : paired record.source other.source) :
    ∀ (walked : List Text) {node twin : Node}, Twins paired node twin →
      Twins paired (Node.insertBelow record fileName walked directories node)
        (Node.insertBelow other fileName walked directories twin) := by
  -- The induction follows the descent, in which only the flag of a record and its source matter.
  induction directories with
  | nil =>
    intro walked node twin twins
    rw [Node.insertBelow, Node.insertBelow, flatten]
    exact twins.withChildren (changeSibling twins.children (bare rfl rfl) fun below => below.addSource pair)
  | cons segment rest ih =>
    intro walked node twin twins
    exact twins.withChildren (changeSibling twins.children (bare rfl rfl) fun below => ih _ (below.enter _))

end Twins

end Node

/-- Whether two records lie at one path beneath the asset root, or both elsewhere, and are named alike. -/
def Record.Level (root : Text) (record other : Record) : Prop :=
  relativePath? root record.source = relativePath? root other.source ∧ record.flatten = other.flatten

/-- Whether two texts are the sources of records at one position of two lists. -/
def SourcesAt (records others : List Record) (source other : Text) : Prop :=
  ∃ pair ∈ records.zip others, source = pair.1.source ∧ other = pair.2.source

section Build

variable {root : Text} {records others : List Record}

/-- Whether two routes are one way for files that are named alike, with paired sources. -/
structure Route.Twins (paired : Text → Text → Prop) (route twin : Route) : Prop where
  /-- The directories are the same. -/
  directories : route.directories = twin.directories
  /-- The files have the same name. -/
  fileName : route.fileName = twin.fileName
  /-- The files are named alike. -/
  flatten : route.record.flatten = twin.record.flatten
  /-- The sources are a pair. -/
  source : paired route.record.source twin.record.source

/-- Records that are level have one route or none. -/
theorem Record.Level.route {record other : Record} {paired : Text → Text → Prop} (level : record.Level root other)
    (pair : paired record.source other.source) :
    Option.Rel (Route.Twins paired) (Route.ofRecord? root record) (Route.ofRecord? root other) := by
  -- What decides on the route is the path beneath the root, and that is one for both records.
  rw [Route.ofRecord?, Route.ofRecord?, ← level.1]
  cases relativePath? root record.source with
  | none => exact .none
  | some relative =>
    rw [Option.bind_some, Option.bind_some]
    dsimp only
    split
    · exact .none
    · exact .some ⟨rfl, rfl, level.2, pair⟩

/-- Records that are level one by one make trees that are twins. -/
theorem twins_build (className : Text) (same : Forall₂ (Record.Level root) records others) :
    Node.Twins (SourcesAt records others) (build className root records) (build className root others) := by
  -- The sources that are paired are those of records at one position, as the relation has to remember.
  obtain ⟨lengths, each⟩ := List.forall₂_iff_zip.mp same
  have paired : Forall₂ (fun record other => record.Level root other ∧
      SourcesAt records others record.source other.source) records others :=
    List.forall₂_iff_zip.mpr ⟨lengths, fun member => ⟨each member, _, member, rfl, rfl⟩⟩
  have ways : Forall₂ (Route.Twins (SourcesAt records others)) (routes root records) (routes root others) :=
    List.rel_filterMap (fun _ _ ⟨level, pair⟩ => level.route pair) paired
  rw [build_eq_foldl_routes, build_eq_foldl_routes]
  refine List.rel_foldl (fun tree twin trees route other twins => ?_) (Node.Twins.bare rfl rfl) ways
  rw [Route.insertInto, Route.insertInto, ← twins.directories, ← twins.fileName]
  exact trees.insertBelow _ _ twins.flatten twins.source _

/-- Records that are level one by one have the same number beneath the asset root. -/
theorem length_beneath_eq (same : Forall₂ (Record.Level root) records others) :
    (beneath root records).length = (beneath root others).length := by
  -- Being beneath the asset root only depends on the path below it, which is the same.
  refine (List.rel_filter (fun record other level => ?_) same).length_eq
  show isBeneath root record.source = true ↔ isBeneath root other.source = true
  rw [isBeneath, isBeneath, level.1]

end Build

/-- Whether two places have one way of names and the same siblings, and nodes that are twins. -/
structure Place.Twins (paired : Text → Text → Prop) (place twin : Place) : Prop where
  /-- The nodes above have the same names. -/
  above : place.above.map Node.name = twin.above.map Node.name
  /-- The siblings have the same names. -/
  siblings : place.siblings = twin.siblings
  /-- The nodes are twins. -/
  node : place.node.Twins paired twin.node

/-- The places of twins are twins, one by one in their order. -/
theorem Node.Twins.places {paired : Text → Text → Prop} {node twin : Node} (twins : node.Twins paired twin) :
    ∀ {above others : List Node}, above.map Node.name = others.map Node.name →
      Forall₂ (Place.Twins paired) (node.placesBelow above) (twin.placesBelow others) := by
  -- Each child comes with the places below it.
  induction twins with
  | @intro node twin key name directory relative sources lengths below ih =>
    intro above others level
    have twins : node.Twins paired twin := ⟨key, name, directory, relative, sources, lengths, below⟩
    have names : node.children.map Node.name = twin.children.map Node.name := by
      rw [← List.forall₂_eq_eq_eq]
      exact List.rel_map (fun _ _ child => child.name_eq) twins.children
    have each : Forall₂ (fun child other => Node.Twins paired child other ∧
        ∀ {above others : List Node}, above.map Node.name = others.map Node.name →
          Forall₂ (Place.Twins paired) (child.placesBelow above) (other.placesBelow others))
        node.children twin.children :=
      List.forall₂_iff_get.mpr ⟨lengths, fun position within alsoWithin =>
        ⟨below position within alsoWithin, ih position within alsoWithin⟩⟩
    rw [placesBelow_eq_flatMap, placesBelow_eq_flatMap]
    refine List.rel_flatMap each fun child other ⟨children, deeper⟩ => ?_
    -- The child itself comes first, and the nodes above it have the same names.
    refine .cons ⟨level, names, children⟩ (deeper ?_)
    rw [List.map_append, List.map_append, level, List.map_singleton, List.map_singleton, children.name_eq]

/-- Whether two claims are for one key, and their sources are paired as that key asks for. -/
def PairedClaims (paired : Text → Text → Text → Prop) (claim twin : Claim) : Prop :=
  claim.1 = twin.1 ∧ Forall₂ (paired claim.1) claim.2 twin.2

section Gather

variable {paired : Text → Text → Text → Prop}

/-- Paired sources for one key are added to paired claims. -/
theorem pairedClaims_addClaim {key : Text} {sources others : List Text} {first second : List Claim}
    (each : Forall₂ (PairedClaims paired) first second) (pairs : Forall₂ (paired key) sources others) :
    Forall₂ (PairedClaims paired) (addClaim key sources first) (addClaim key others second) := by
  -- Paired claims have one key, so the sources go to the same position on both sides.
  induction each with
  | nil => exact .cons ⟨rfl, pairs⟩ .nil
  | @cons claim twin _ _ here rest ih =>
    obtain ⟨same, entries⟩ := here
    rw [addClaim, addClaim, ← same]
    split
    · rename_i known
      exact .cons ⟨rfl, List.rel_append (known ▸ entries) pairs⟩ rest
    · exact .cons ⟨same, entries⟩ ih

/-- Paired claims are gathered in pairs. -/
theorem pairedClaims_gather {first second : List Claim} (each : Forall₂ (PairedClaims paired) first second) :
    Forall₂ (PairedClaims paired) (gather first) (gather second) := by
  refine List.rel_foldl (fun gathered others known claim twin ⟨same, pairs⟩ => ?_) .nil each
  -- Claims of a pair have as many sources, so both are passed over or none.
  rw [← isEmpty_eq_of_forall₂ pairs, ← same]
  split
  · exact known
  · exact pairedClaims_addClaim known pairs

/-- The collisions of two trees whose places have paired claims are paired. -/
theorem pairedClaims_collisions {tree twin : Node}
    (each : Forall₂ (PairedClaims paired) (tree.places.map Place.claim) (twin.places.map Place.claim)) :
    Forall₂ (PairedClaims paired) (collisions tree) (collisions twin) := by
  -- Claims are gathered in pairs, and a collision is a claim of at least two sources.
  rw [collisions, collisions, keys_eq_gather, keys_eq_gather, claimsBelow_nil_eq_map, claimsBelow_nil_eq_map]
  refine List.rel_filter (fun claim other pair => ?_) (pairedClaims_gather each)
  show decide (1 < claim.2.length) = true ↔ decide (1 < other.2.length) = true
  rw [pair.2.length_eq]

end Gather

namespace Place.Twins

variable {paired : Text → Text → Prop} {place twin : Place}

/-- Twins have the same key. -/
theorem key_eq (twins : Place.Twins paired place twin) : place.key = twin.key := by
  simp [key, way, twins.above, twins.node.name_eq]

/-- Twins list their directories alike, and beside others alike. -/
theorem listing_eq (twins : Place.Twins paired place twin) :
    place.isShared = twin.isShared ∧ place.listing = twin.listing := by
  -- Twins have the same name, the same directory, and as many sources.
  obtain ⟨-, name, directory, -, sources, -, -⟩ := twins.node
  constructor
  · rw [isShared, isShared, directory, isEmpty_eq_of_forall₂ sources, twins.siblings, name]
  · rw [listing, listing, directory]

end Place.Twins

/--
Whether two entries for a key correspond in the collisions of two trees.

Either both are the listing of a directory of that key, in whose tree a file or a sibling takes its name too.
Or they are the sources of a pair.
-/
inductive Corresponds (paired : Text → Text → Prop) (tree twin : Node) (key : Text) : Text → Text → Prop
  | directory {place other : Place} (member : place ∈ tree.places) (alsoMember : other ∈ twin.places)
      (shared : place.isShared = true) (alsoShared : other.isShared = true)
      (here : place.key = key) (alsoHere : other.key = key) (same : place.listing = other.listing) :
      Corresponds paired tree twin key place.listing other.listing
  | file {source other : Text} (pair : paired source other) : Corresponds paired tree twin key source other

/-- Trees that are twins have the same collisions, with entries that correspond one by one. -/
theorem Node.Twins.collisions {paired : Text → Text → Prop} {tree twin : Node} (twins : tree.Twins paired twin) :
    Forall₂ (PairedClaims (Corresponds paired tree twin)) (collisions tree) (collisions twin) := by
  -- Collisions are gathered from claims, and claims come from places, which are twins one by one.
  apply pairedClaims_collisions
  rw [List.forall₂_map_left_iff, List.forall₂_map_right_iff]
  have places : Forall₂ (Place.Twins paired) tree.places twin.places := twins.places rfl
  obtain ⟨lengths, each⟩ := List.forall₂_iff_zip.mp places
  refine List.forall₂_iff_zip.mpr ⟨lengths, fun {place other} member => ?_⟩
  have pair := each member
  obtain ⟨known, alsoKnown⟩ := List.of_mem_zip member
  obtain ⟨shared, listing⟩ := pair.listing_eq
  obtain ⟨-, -, -, -, sources, -, -⟩ := pair.node
  have files : Forall₂ (Corresponds paired tree twin place.key) place.node.sources other.node.sources :=
    sources.imp fun _ _ => .file
  rw [place.claim_eq, other.claim_eq, ← shared]
  refine ⟨pair.key_eq, ?_⟩
  -- A directory is listed in front of its files for one of the twins exactly if it is for the other.
  cases listed : place.isShared with
  | false => exact files
  | true => exact .cons (.directory known alsoKnown listed (shared ▸ listed) rfl pair.key_eq.symm listing) files

end AssetCatalog.Asset
