import AssetCatalog.Proofs.Asset.Collisions

/-! The files of a tree without collisions: one node for each route, and one key for each file. -/

namespace AssetCatalog.Asset

/-- The dotted key of the node that a route reaches in a tree. -/
def Route.key (tree : Node) (route : Route) : Text :=
  -- The names are those of the nodes in the tree, which another route may have made.
  dotted (tree.namesAlong route.keys)

/-- Records that lie elsewhere have no routes. -/
theorem routes_beneath (root : Text) (records : List Record) :
    routes root (beneath root records) = routes root records := by
  -- What is kept has a relative path, and so has what has a route.
  rw [routes, routes, beneath, List.filterMap_filter]
  refine List.filterMap_congr fun record _ => ?_
  cases placed : relativePath? root record.source with
  | none => simp [isBeneath, Route.ofRecord?, placed]
  | some relative => simp [isBeneath, placed]

/-- Records that lie elsewhere do not change the tree. -/
theorem build_beneath (className root : Text) (records : List Record) :
    build className root (beneath root records) = build className root records := by
  -- The tree is made of the routes alone.
  rw [build_eq_foldl_routes, build_eq_foldl_routes, routes_beneath]

section Leaves

variable {className root : Text} {records : List Record} {place : Place}

/-- In the tree of records, a node that is no directory has no children. -/
theorem children_eq_nil_of_isLeaf (member : place ∈ (build className root records).places)
    (leaf : place.node.isLeaf = true) : place.node.children = [] := by
  refine List.eq_nil_iff_forall_not_mem.mpr fun child below => ?_
  -- A route that reaches a child passes the node, which makes it a directory.
  have placed := Node.mem_placesBelow_of_mem_children _ member below
  obtain ⟨route, reached, _⟩ :=
    portrait_eq_some (portrait_of_mem_places placed) (Place.way_ne_nil Node.key _)
  have start : Route.Reaches (place.way Node.key ++ [child.key]) route := by
    simpa [Place.way] using List.find?_some reached
  refine not_passes_of_isLeaf member leaf route (List.mem_of_find?_eq_some reached) ⟨?_, ?_⟩
  · exact (List.prefix_append _ _).trans start
  · intro same
    -- The way to the child has one key more.
    have short := start.length_le
    rw [← same, List.length_append, List.length_singleton] at short
    omega

/-- The names on the way to a place are those along the keys of the way. -/
theorem namesAlong_way (member : place ∈ (build className root records).places) :
    (build className root records).namesAlong (place.way Node.key) = place.way Node.name := by
  -- The keys find the same nodes that the way goes through.
  obtain ⟨keys, way, _, names⟩ :=
    Node.find?_way (siblingsDiffer_key_build className root records) member
  rw [way, names]
  rfl

end Leaves

/-- Each route ends at a place. -/
theorem exists_place_of_route (className : Text) {root : Text} {records : List Record} {route : Route}
    (member : route ∈ routes root records) :
    ∃ place ∈ (build className root records).places, place.way Node.key = route.keys := by
  -- The route reaches its own keys, so a node is found there, and every node stands at a place.
  have reached : Route.Reaches route.keys route := List.prefix_rfl
  have drawn : (portrait (routes root records) route.keys).isSome := by
    simpa [portrait] using ⟨route, member, reached⟩
  rw [← bare_find?_build className root records route.keys_ne_nil, Option.isSome_map] at drawn
  obtain ⟨node, found⟩ := Option.isSome_iff_exists.mp drawn
  obtain ⟨key, rest, keys⟩ := List.exists_cons_of_ne_nil route.keys_ne_nil
  rw [keys] at found ⊢
  obtain ⟨place, known, _, way⟩ := Node.exists_place_of_find? rest [] found
  exact ⟨place, known, way⟩

section Free

variable {className root : Text} {records : List Record}
  (free : collisions (build className root records) = [])
include free

/-- Without collisions, no two routes have the same keys. -/
theorem nodup_keys_routes : ((routes root records).map Route.keys).Nodup := by
  -- A key counts as often as there are routes that end at its node, which has one source at most.
  rw [List.nodup_iff_count_le_one]
  intro keys
  by_cases reached : keys ∈ (routes root records).map Route.keys
  · obtain ⟨route, known, rfl⟩ := List.mem_map.mp reached
    obtain ⟨place, member, way⟩ := exists_place_of_route className known
    -- The routes that end at a node are as many as its sources.
    have single := ((plain_of_collisions_eq_nil free).1 place member).1
    rw [portrait_sources (portrait_of_mem_places member), way, List.length_map,
      ← List.countP_eq_length_filter] at single
    rw [List.count, List.countP_map]
    simpa [Function.comp_def, beq_eq_decide] using single
  · rw [List.count_eq_zero_of_not_mem reached]
    omega

/-- Without collisions, a node that is no directory holds what one route says. -/
theorem exists_route_of_isLeaf {place : Place} (member : place ∈ (build className root records).places)
    (leaf : place.node.isLeaf = true) : ∃ route ∈ routes root records,
      place.way Node.key = route.keys ∧ place.node.sources = [route.record.source] ∧
        place.node.relative = some route.path := by
  obtain ⟨route, known, ends, source, relative⟩ := exists_route_of_mem_places member leaf
  -- The node has one source at most, so it is that of the route.
  have single := ((plain_of_collisions_eq_nil free).1 place member).1
  refine ⟨route, known, ends.symm, ?_, relative⟩
  obtain ⟨only, same⟩ := List.length_eq_one_iff.mp
    (Nat.le_antisymm single (List.length_pos_of_mem source))
  rw [same] at source ⊢
  rw [List.mem_singleton.mp source]

/-- Without collisions, each route reaches a node that is no directory. -/
theorem exists_leaf_of_route {route : Route} (member : route ∈ routes root records) :
    ∃ place ∈ (build className root records).places,
      place.node.isLeaf = true ∧ place.way Node.key = route.keys := by
  obtain ⟨place, known, way⟩ := exists_place_of_route className member
  refine ⟨place, known, ?_, way⟩
  -- The node has the source of the route, and so it is no directory.
  have sources : route.record.source ∈ place.node.sources := by
    rw [portrait_sources (portrait_of_mem_places known), way]
    exact List.mem_map.mpr ⟨route, by simp [member], rfl⟩
  have single := ((plain_of_collisions_eq_nil free).1 place known).2
  cases kind : place.node.directory with
  | none => simp [Node.isLeaf, kind]
  | some directory => exact (single ⟨by simp [kind], List.ne_nil_of_mem sources⟩).elim

/-- Without collisions, the nodes that are no directories are those of the routes, one for each. -/
theorem leaves_perm_routes :
    (((build className root records).places.filter fun place => place.node.isLeaf).map fun place =>
      (place.way Node.key, place.node.sources, place.node.relative)).Perm
        ((routes root records).map fun route =>
          (route.keys, [route.record.source], some route.path)) := by
  -- Both lists are without repetition, by the keys alone, so that membership decides.
  have places : ((build className root records).places.map (Place.way Node.key)).Nodup :=
    Node.nodup_ways _ (siblingsDiffer_key_build className root records)
  refine (List.perm_ext_iff_of_nodup ?_ ?_).mpr fun file => ?_
  · refine List.Nodup.of_map Prod.fst ?_
    rw [List.map_map]
    exact places.sublist (List.filter_sublist.map _)
  · refine List.Nodup.of_map Prod.fst ?_
    rw [List.map_map]
    exact nodup_keys_routes free
  · -- A leaf comes from a route, and what the route says of it is what is listed.
    constructor
    · intro inLeaves
      obtain ⟨place, kept, rfl⟩ := List.mem_map.mp inLeaves
      obtain ⟨member, leaf⟩ := List.mem_filter.mp kept
      obtain ⟨route, known, way, sources, relative⟩ := exists_route_of_isLeaf free member leaf
      exact List.mem_map.mpr ⟨route, known, by rw [way, sources, relative]⟩
    · intro inRoutes
      obtain ⟨route, known, rfl⟩ := List.mem_map.mp inRoutes
      obtain ⟨place, member, leaf, way⟩ := exists_leaf_of_route free known
      obtain ⟨other, otherKnown, otherWay, sources, relative⟩ := exists_route_of_isLeaf free member leaf
      -- The node of the route is that of a route with the same keys, which is no other.
      obtain rfl : other = route :=
        List.inj_on_of_nodup_map (nodup_keys_routes free) otherKnown known (otherWay.symm.trans way)
      exact List.mem_map.mpr ⟨place, List.mem_filter.mpr ⟨member, leaf⟩, by rw [way, sources, relative]⟩

/-- Without collisions, exactly the nodes that are no directories claim keys, each with its sources. -/
theorem keys_eq_map_leaves : keys (build className root records) =
    ((build className root records).places.filter fun place => place.node.isLeaf).map fun place =>
      (dotted (place.way Node.name), place.node.sources) := by
  -- Without collisions no key is claimed twice, so gathering only drops the claims of directories.
  obtain ⟨plain, differ⟩ := plain_of_collisions_eq_nil free
  have distinct : (((build className root records).places.map Place.claim).map Prod.fst).Nodup := by
    rw [List.map_map]
    exact nodup_dotted_places differ
  have claim : ∀ place ∈ (build className root records).places,
      place.claim = (dotted (place.way Node.name), place.node.sources) :=
    fun place member => claim_of_mem_places differ member (plain place member).2
  -- A claim has sources exactly where the node is no directory.
  have kinds : ∀ place ∈ (build className root records).places,
      (!place.claim.2.isEmpty) = place.node.isLeaf := by
    intro place member
    rw [claim place member]
    cases kind : place.node.directory with
    | none =>
      have given := sources_ne_nil_of_mem_places member kind
      simpa [Node.isLeaf, kind] using given
    | some directory =>
      have nothing : place.node.sources = [] := by simpa [kind] using (plain place member).2
      simp [Node.isLeaf, kind, nothing]
  rw [keys_eq_gather, claimsBelow_nil_eq_map, gather_eq_filter distinct, List.filter_map]
  have kept := List.filter_congr kinds
  rw [← kept]
  refine List.map_congr_left fun place member => claim place ?_
  exact List.mem_of_mem_filter member

/-- Without collisions, what is told of the leaves by their names is told of the routes by their keys. -/
theorem map_leaves_perm {α : Type} (told : Text → List Text → Option Text → α) :
    (((build className root records).places.filter fun place => place.node.isLeaf).map fun place =>
      told (dotted (place.way Node.name)) place.node.sources place.node.relative).Perm
        ((routes root records).map fun route =>
          told (route.key (build className root records)) [route.record.source] (some route.path)) := by
  -- The names of a place are found along its keys, which it shares with its route.
  have files := (leaves_perm_routes free).map fun file =>
    told (dotted ((build className root records).namesAlong file.1)) file.2.1 file.2.2
  rw [List.map_map, List.map_map] at files
  refine (List.Perm.of_eq (List.map_congr_left fun place member => ?_)).trans files
  rw [Function.comp_apply, namesAlong_way (List.mem_of_mem_filter member)]

/-- Without collisions, each route has a key of its own, which its record alone claims. -/
theorem keys_perm_routes : (keys (build className root records)).Perm
    ((routes root records).map fun route =>
      (route.key (build className root records), [route.record.source])) := by
  -- The leaves are the routes in some order, and each leaf gives its own key.
  rw [keys_eq_map_leaves free]
  exact map_leaves_perm free fun key sources _ => (key, sources)

end Free

end AssetCatalog.Asset
