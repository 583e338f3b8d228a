import AssetCatalog.Proofs.Asset.Claims
import AssetCatalog.Proofs.Asset.Dotted

/-! When a tree of records has colliding keys. -/

namespace AssetCatalog.Asset

/-- A tree is free of collisions exactly if no key has more than one source. -/
theorem collisions_eq_nil_iff_sourcesFor (tree : Node) :
    collisions tree = [] ↔ ∀ key, (sourcesFor key (claimsBelow [] tree)).length ≤ 1 := by
  -- A key is listed with all sources claimed for it, and a key that is not listed has none.
  simp only [collisions, keys_eq_gather, List.filter_eq_nil_iff, decide_eq_true_eq, Nat.not_lt]
  constructor
  · intro single key
    by_cases nothing : sourcesFor key (claimsBelow [] tree) = []
    · simp [nothing]
    · exact single (key, sourcesFor key (claimsBelow [] tree)) (mem_gather_iff.mpr ⟨rfl, nothing⟩)
  · intro single claim member
    rw [(mem_gather_iff.mp member).1]
    exact single claim.1

namespace Place

/-- Two places do not claim one key, both with sources. -/
def Separate (first second : Place) : Prop :=
  first.claim.2 ≠ [] → second.claim.2 ≠ [] → first.claim.1 ≠ second.claim.1

end Place

/-- A tree is free of collisions exactly if its places claim one source each and separate keys. -/
theorem collisions_eq_nil_iff_places (tree : Node) :
    collisions tree = [] ↔ (∀ place ∈ tree.places, place.claim.2.length ≤ 1) ∧
      tree.places.Pairwise Place.Separate := by
  -- A sum of lengths is at most one exactly if each is and no two of one key count.
  rw [collisions_eq_nil_iff_sourcesFor, length_sourcesFor_le_one_iff, claimsBelow_nil_eq_map, List.pairwise_map,
    List.forall_mem_map]
  rfl

namespace Node

/-- The siblings of a place have distinct names where names tell siblings apart. -/
theorem nodup_siblings (node : Node) :
    ∀ {above : List Node} {place : Place}, SiblingsDiffer Node.name node →
      place ∈ placesBelow above node → place.siblings.Nodup := by
  -- The siblings of a place are the children of the node above it.
  induction node using Node.induction with
  | step node ih =>
    intro above place differ member
    obtain ⟨child, below, rfl | deeper⟩ := mem_placesBelow_iff.mp member
    · exact differ.nodup
    · exact ih child below (differ.child below) deeper

/-- Each node on the way to a place is above the start or stands at a place itself. -/
theorem mem_above_of_mem_placesBelow (node : Node) :
    ∀ {above : List Node} {place : Place}, place ∈ placesBelow above node →
      ∀ passed ∈ place.above, passed ∈ above ∨ ∃ other ∈ placesBelow above node, other.node = passed := by
  -- What is on the way is handed down from node to node: each step adds the child it leads to.
  induction node using Node.induction with
  | step node ih =>
    intro above place member passed inWay
    obtain ⟨child, below, rfl | deeper⟩ := mem_placesBelow_iff.mp member
    · exact .inl inWay
    · rcases ih child below deeper passed inWay with known | ⟨other, part, same⟩
      · -- What the recursion knows of is above the child, or the child, which stands at a place too.
        rcases List.mem_append.mp known with earlier | here
        · exact .inl earlier
        · refine .inr ⟨⟨above, node.children.map Node.name, child⟩, ?_, ?_⟩
          · exact mem_placesBelow_iff.mpr ⟨child, below, .inl rfl⟩
          · exact (List.mem_singleton.mp here).symm
      · exact .inr ⟨other, mem_placesBelow_iff.mpr ⟨child, below, .inr part⟩, same⟩

/-- A node that shares its name adds sources to its key, if a node for files alone has sources. -/
theorem ownSources_ne_nil {siblings : List Text} {node : Node}
    (file : node.directory = none → node.sources ≠ []) (shared : 1 < siblings.count node.name) :
    ownSources siblings node ≠ [] := by
  -- A directory that shares its name adds its own path, and a file has a source.
  unfold ownSources
  cases kind : node.directory with
  | none => simpa using file kind
  | some directory => simp [shared]

/-- Where places are separate and files have sources, names tell siblings apart. -/
theorem siblingsDiffer_name_of_separate (node : Node) :
    ∀ {above : List Node},
      (∀ place ∈ placesBelow above node, place.node.directory = none → place.node.sources ≠ []) →
      (placesBelow above node).Pairwise Place.Separate → SiblingsDiffer Node.name node := by
  induction node using Node.induction with
  | step node ih =>
    intro above files separate
    rw [placesBelow_eq_flatMap, List.pairwise_flatMap] at separate
    obtain ⟨inside, across⟩ := separate
    -- The children themselves are told apart by what they claim, those below them by the recursion.
    constructor
    · rw [List.Nodup, List.pairwise_map, List.pairwise_iff_forall_sublist]
      intro first second order same
      -- A name that two siblings share makes both of them claim their common key.
      have shared : 1 < (node.children.map Node.name).count first.name := by
        have both := (order.map Node.name).count_le first.name
        simp only [List.map_cons, List.map_nil, ← same, List.count_cons_self, List.count_nil] at both
        omega
      have apart := List.pairwise_iff_forall_sublist.mp across order
        ⟨above, node.children.map Node.name, first⟩ (by simp)
        ⟨above, node.children.map Node.name, second⟩ (by simp)
      refine apart (ownSources_ne_nil ?_ shared) (ownSources_ne_nil ?_ (same ▸ shared)) ?_
      · exact files _ (mem_placesBelow_iff.mpr ⟨first, order.subset (by simp), .inl rfl⟩)
      · exact files _ (mem_placesBelow_iff.mpr ⟨second, order.subset (by simp), .inl rfl⟩)
      · simp [Place.claim, Place.way, same]
    · intro child below
      refine ih child below (fun place deeper => files place ?_) (List.pairwise_cons.mp (inside child below)).2
      exact mem_placesBelow_iff.mpr ⟨child, below, .inr deeper⟩

end Node

section Build

variable {className root : Text} {records : List Record} {place : Place}

/-- Each place of the tree of records is as the routes portray it. -/
theorem portrait_of_mem_places (member : place ∈ (build className root records).places) :
    portrait (routes root records) (place.way Node.key) = some place.node.bare := by
  -- The keys on the way find the node, and a node that is found is as it is portrayed.
  obtain ⟨keys, way, found, _⟩ :=
    Node.find?_way (siblingsDiffer_key_build className root records) member
  rw [← bare_find?_build className root records (place.way_ne_nil Node.key), way]
  simp [found]

/-- In the tree of records, every node is named by an identifier for some text. -/
theorem exists_name_of_mem_places (member : place ∈ (build className root records).places) :
    ∃ text stripExtension, place.node.name = Name.ofText text stripExtension := by
  -- The name is one of the names of the route that made the node.
  obtain ⟨first, _, named, _⟩ :=
    portrait_eq_some (portrait_of_mem_places member) (place.way_ne_nil Node.key)
  obtain ⟨step, _, same⟩ := List.mem_map.mp (List.mem_of_getElem? named)
  exact ⟨step.1, step.2, same.symm⟩

/-- In the tree of records, no route passes a node that is no directory. -/
theorem not_passes_of_isLeaf (member : place ∈ (build className root records).places)
    (leaf : place.node.isLeaf = true) :
    ∀ route ∈ routes root records, ¬ Route.Passes (place.way Node.key) route := by
  -- The directory in the portrait would be that of a route passing by; a leaf has none.
  have absent := portrait_directory (portrait_of_mem_places member)
  rw [Option.isNone_iff_eq_none.mp leaf, eq_comm, Option.map_eq_none_iff] at absent
  simpa using absent

/-- In the tree of records, the route that made a node that is no directory ends there. -/
theorem exists_route_of_mem_places (member : place ∈ (build className root records).places)
    (leaf : place.node.isLeaf = true) : ∃ route ∈ routes root records,
      route.keys = place.way Node.key ∧ route.record.source ∈ place.node.sources ∧
        place.node.relative = some route.path := by
  have drawn := portrait_of_mem_places member
  obtain ⟨first, reached, _, relative⟩ := portrait_eq_some drawn (place.way_ne_nil Node.key)
  have known := List.mem_of_find?_eq_some reached
  -- The first route to reach the node does not pass it.
  have start : Route.Reaches (place.way Node.key) first := by simpa using List.find?_some reached
  have ends := ((Route.reaches_iff _ first).mp start).resolve_left
    (not_passes_of_isLeaf member leaf first known)
  refine ⟨first, known, ends, ?_, by rw [relative, if_pos ends]⟩
  rw [portrait_sources drawn]
  exact List.mem_map.mpr ⟨first, by simp [known, ends], rfl⟩

/-- In the tree of records, a node that is no directory has sources. -/
theorem sources_ne_nil_of_mem_places (member : place ∈ (build className root records).places)
    (leaf : place.node.directory = none) : place.node.sources ≠ [] := by
  -- Some route made the node, and it did not pass by: its source ended there.
  obtain ⟨_, _, _, source, _⟩ := exists_route_of_mem_places member (by simp [Node.isLeaf, leaf])
  exact List.ne_nil_of_mem source

/-- In the tree of records, the names on the way to a place are not empty and hold no dots. -/
theorem clean_of_mem_way (member : place ∈ (build className root records).places) :
    ∀ name ∈ place.way Node.name, name ≠ [] ∧ '.' ∉ name := by
  intro name onWay
  -- Each node on the way stands at a place of its own.
  obtain ⟨node, passed, rfl⟩ := List.mem_map.mp onWay
  have placed : ∃ other ∈ (build className root records).places, other.node = node := by
    rcases List.mem_append.mp passed with above | here
    · exact (Node.mem_above_of_mem_placesBelow _ member node above).resolve_left (by simp)
    · exact ⟨place, member, (List.mem_singleton.mp here).symm⟩
  obtain ⟨other, known, rfl⟩ := placed
  obtain ⟨text, stripExtension, same⟩ := exists_name_of_mem_places known
  rw [same]
  exact ⟨Name.ofText_ne_nil text stripExtension, Name.dot_not_mem_ofText text stripExtension⟩

end Build

/-- Where names tell siblings apart, the places of the tree of records have distinct dotted keys. -/
theorem nodup_dotted_places {className root : Text} {records : List Record}
    (differ : Node.SiblingsDiffer Node.name (build className root records)) :
    ((build className root records).places.map fun place => place.claim.1).Nodup := by
  -- The ways of names differ, and their names are got back from the dotted keys.
  have ways : ((build className root records).places.map (Place.way Node.name)).Nodup :=
    Node.nodup_ways _ differ
  refine List.pairwise_map.mpr ((List.pairwise_map.mp ways).imp_of_mem ?_)
  intro first second known alsoKnown different same
  exact different (dotted_injective (first.way_ne_nil _) (second.way_ne_nil _)
    (clean_of_mem_way known) (clean_of_mem_way alsoKnown) same)

/-- Without a conflict and with distinct siblings, a node adds just its sources to its key. -/
theorem ownSources_eq_sources {siblings : List Text} {node : Node} (distinct : siblings.Nodup)
    (single : node.isConflicted = false) : ownSources siblings node = node.sources := by
  -- The path of a directory is added for a file of the same key or a sibling of the same name.
  unfold ownSources
  cases kind : node.directory with
  | none => rfl
  | some directory =>
    have alone : siblings.count node.name ≤ 1 := List.nodup_iff_count_le_one.mp distinct _
    have empty : node.sources = [] := by simpa [Node.isConflicted, kind] using single
    have notShared : ¬ 1 < siblings.count node.name := by omega
    simp [empty, notShared]

section Plain

variable {className root : Text} {records : List Record}

/-- Without collisions, names tell siblings apart and each node has one source or a directory. -/
theorem plain_of_collisions_eq_nil (free : collisions (build className root records) = []) :
    (∀ place ∈ (build className root records).places, place.node.sources.length ≤ 1 ∧
      ¬ (place.node.directory.isSome ∧ place.node.sources ≠ [])) ∧
      Node.SiblingsDiffer Node.name (build className root records) := by
  -- Each place claims one source, and two places that claim any are separate.
  obtain ⟨single, separate⟩ := (collisions_eq_nil_iff_places _).mp free
  refine ⟨?_, Node.siblingsDiffer_name_of_separate _
    (fun place member => sources_ne_nil_of_mem_places member) separate⟩
  intro place member
  -- A node claims its sources, and its directory besides if it has both.
  have claimed := single place member
  unfold Place.claim ownSources at claimed
  cases kind : place.node.directory with
  | none => simpa [kind] using claimed
  | some directory =>
    cases empty : place.node.sources with
    | nil => simp
    | cons source rest => simp [kind, empty] at claimed

/-- Where names tell siblings apart, a node without a conflict claims just its sources. -/
theorem claim_of_mem_places (differ : Node.SiblingsDiffer Node.name (build className root records))
    {place : Place} (member : place ∈ (build className root records).places)
    (single : ¬ (place.node.directory.isSome ∧ place.node.sources ≠ [])) :
    place.claim = (dotted (place.way Node.name), place.node.sources) := by
  -- Only a sibling of the same name or the node's own conflict could add a source.
  have sources : ownSources place.siblings place.node = place.node.sources :=
    ownSources_eq_sources (Node.nodup_siblings _ differ member) (by simpa [Node.isConflicted] using single)
  rw [Place.claim, sources]

end Plain

/--
The tree of records has no collision exactly if its nodes and their names are all distinct.

No node below the root has more than one source, or a source and a directory.
No two children of a node, the root included, have the same name.
-/
theorem collisions_build_eq_nil_iff (className root : Text) (records : List Record) :
    collisions (build className root records) = [] ↔
      (∀ place ∈ (build className root records).places,
        place.node.sources.length ≤ 1 ∧
          ¬ (place.node.directory.isSome ∧ place.node.sources ≠ [])) ∧
      Node.SiblingsDiffer Node.name (build className root records) := by
  refine ⟨plain_of_collisions_eq_nil, ?_⟩
  -- Conversely, each place claims its sources alone, and the keys of all places differ.
  rintro ⟨plain, differ⟩
  rw [collisions_eq_nil_iff_places]
  constructor
  · intro place member
    rw [claim_of_mem_places differ member (plain place member).2]
    exact (plain place member).1
  · refine (List.pairwise_map.mp (nodup_dotted_places differ)).imp ?_
    exact fun different _ _ => different

end AssetCatalog.Asset
