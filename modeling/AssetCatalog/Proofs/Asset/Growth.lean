import AssetCatalog.Proofs.Asset.Conflicts
import AssetCatalog.Proofs.Text.Counterparts

/-! What records behind others do to a tree: nothing of it is revised, and every collision remains. -/

namespace AssetCatalog.Asset

open List (SublistForall₂)

namespace Node

/--
Whether a node has become another one by files that were put in.

Its key, its name and its path stay, as does a directory once there is one.
Further sources come behind those it has, and further children behind its own, which may have grown themselves.
-/
inductive Grows : Node → Node → Prop
  | intro {old new : Node} (key : new.key = old.key) (name : new.name = old.name)
      (relative : new.relative = old.relative)
      (directory : ∀ path, old.directory = some path → new.directory = some path)
      (sources : old.sources <+: new.sources) (room : old.children.length ≤ new.children.length)
      (below : ∀ (position : Nat) child grown, old.children[position]? = some child →
        new.children[position]? = some grown → Grows child grown) : Grows old new

/-- At each position of some siblings, one of them is changed or all is as it was. -/
theorem getElem?_changeSibling (key : Text) (fresh : Node) (change : Node → Node) {siblings : List Node}
    {position : Nat} {node : Node} (there : siblings[position]? = some node) :
    (changeSibling key fresh change siblings)[position]? = some node ∨
      (changeSibling key fresh change siblings)[position]? = some (change node) := by
  -- The change happens at one position, or behind all of them.
  induction siblings generalizing position with
  | nil => simp at there
  | cons first rest ih =>
    rw [changeSibling]
    cases position with
    | zero =>
      obtain rfl : first = node := by simpa using there
      -- The first sibling is the one with the key, or the change comes behind it.
      split
      · exact .inr rfl
      · exact .inl rfl
    | succ position =>
      split
      · exact .inl there
      · exact ih there

/-- No sibling goes when one is changed. -/
theorem length_le_changeSibling (key : Text) (fresh : Node) (change : Node → Node) (siblings : List Node) :
    siblings.length ≤ (changeSibling key fresh change siblings).length := by
  -- Either a sibling changes in its place or a fresh one comes behind all of them.
  induction siblings with
  | nil => exact Nat.zero_le _
  | cons first rest ih =>
    rw [changeSibling]
    split
    · exact Nat.le_refl _
    · exact Nat.succ_le_succ ih

namespace Grows

variable {old new : Node}

/-- Where nothing is put in, a node stays what it is. -/
theorem refl (node : Node) : Grows node node := by
  induction node using Node.induction with
  | step node ih =>
    -- All but the children is the same by definition, and they are nodes of the recursion.
    refine ⟨rfl, rfl, rfl, fun _ there => there, List.prefix_rfl, Nat.le_refl _, ?_⟩
    intro position child grown there same
    obtain rfl : child = grown := Option.some.inj (there.symm.trans same)
    exact ih child (List.mem_of_getElem? there)

/-- A further source comes behind those that a node has. -/
theorem addSource (grown : Grows old new) (source : Text) : Grows old (new.addSource source) := by
  -- A list is a prefix of itself with one more source behind.
  obtain ⟨key, name, relative, directory, sources, room, below⟩ := grown
  exact ⟨key, name, relative, directory, sources.trans (List.prefix_append _ _), room, below⟩

/-- A directory is entered without revising the one that a node stands for. -/
theorem enter (grown : Grows old new) (path : Text) : Grows old (new.enter path) := by
  -- An old directory is kept by the new node, so there is no room for the given one.
  obtain ⟨key, name, relative, directory, sources, room, below⟩ := grown
  refine ⟨key, name, relative, fun path there => ?_, sources, room, below⟩
  rw [Node.enter, directory path there, Option.some_or]

/-- A node grows with the child that is changed, where the change lets children grow. -/
theorem changeSibling {key : Text} {fresh : Node} {change : Node → Node} (grown : Grows old new)
    (each : ∀ child grown, Grows child grown → Grows child (change grown)) :
    Grows old { new with children := Node.changeSibling key fresh change new.children } := by
  obtain ⟨sameKey, name, relative, directory, sources, room, below⟩ := grown
  refine ⟨sameKey, name, relative, directory, sources, room.trans (length_le_changeSibling _ _ _ _), ?_⟩
  intro position child changed there now
  -- A child of the old node had grown into a child at its position before the change.
  have within : position < new.children.length :=
    Nat.lt_of_lt_of_le (List.getElem?_eq_some_iff.mp there).1 room
  have before : new.children[position]? = some new.children[position] := List.getElem?_eq_getElem within
  have further := below position child _ there before
  -- That child stayed as it was, or was changed in a way that lets children grow.
  rcases getElem?_changeSibling key fresh change before with same | done
  · obtain rfl := Option.some.inj (same.symm.trans now)
    exact further
  · obtain rfl := Option.some.inj (done.symm.trans now)
    exact each child _ further

/-- Putting in one more file lets a node grow further. -/
theorem insertBelow (record : Record) (fileName : Text) (directories : List Text) :
    ∀ (walked : List Text) {old new : Node}, Grows old new →
      Grows old (Node.insertBelow record fileName walked directories new) := by
  -- The induction follows the descent, which changes one child at each level.
  induction directories with
  | nil =>
    intro walked old new grown
    exact grown.changeSibling fun _ _ further => further.addSource record.source
  | cons segment rest ih =>
    intro walked old new grown
    exact grown.changeSibling fun _ _ further => ih _ (further.enter _)

end Grows

end Node

/-- The routes of further records come behind those of the others. -/
theorem routes_append (root : Text) (records added : List Record) :
    routes root (records ++ added) = routes root records ++ routes root added :=
  List.filterMap_append

/-- Further records let the tree grow. -/
theorem grows_build_append (className root : Text) (records added : List Record) :
    (build className root records).Grows (build className root (records ++ added)) := by
  -- The routes of the further records are put in one after the other.
  rw [build_eq_foldl_routes, build_eq_foldl_routes, routes_append, List.foldl_append]
  refine List.foldlRecOn (motive := fun tree => Node.Grows _ tree) _ _ (Node.Grows.refl _) ?_
  exact fun tree grown route _ => grown.insertBelow _ _ _ _

/-- Whether a place of a tree has become a place of the tree that has grown out of it. -/
structure Place.Grows (old new : Place) : Prop where
  /-- The nodes above have the same names. -/
  above : new.above.map Node.name = old.above.map Node.name
  /-- Further siblings stand behind those that were there. -/
  siblings : old.siblings <+: new.siblings
  /-- The node has grown. -/
  node : old.node.Grows new.node

namespace Node.Grows

variable {old new : Node}

/-- A node that has grown keeps its name. -/
theorem name_eq (grown : Grows old new) : new.name = old.name := by
  cases grown
  assumption

/-- A node that has grown keeps its path. -/
theorem relative_eq (grown : Grows old new) : new.relative = old.relative := by
  cases grown
  assumption

/-- The names of the children come first among those of the node that has grown. -/
theorem names_prefix (grown : Grows old new) : old.children.map Node.name <+: new.children.map Node.name := by
  -- Children keep their positions, so it is enough to look at one position of the old node.
  obtain ⟨-, -, -, -, -, room, below⟩ := grown
  refine List.prefix_iff_getElem?.mpr fun position within => ?_
  rw [List.length_map] at within
  have bound : position < new.children.length := Nat.lt_of_lt_of_le within room
  have there : new.children[position]? = some new.children[position] := List.getElem?_eq_getElem bound
  rw [List.getElem?_map, there, List.getElem_map, Option.map_some,
    (below position _ _ (List.getElem?_eq_getElem within) there).name_eq]

/-- Each place below a node has become one below the node that has grown, in the same order. -/
theorem places (grown : Grows old new) : ∀ {above others : List Node}, others.map Node.name = above.map Node.name →
    SublistForall₂ Place.Grows (old.placesBelow above) (new.placesBelow others) := by
  -- Each child comes with the places below it, which have counterparts below the child that has grown.
  induction grown with
  | @intro old new key name relative directory sources room below ih =>
    intro above others level
    have grown : Grows old new := ⟨key, name, relative, directory, sources, room, below⟩
    have paired : SublistForall₂ (fun child grown => Grows child grown ∧
        ∀ {above others : List Node}, others.map Node.name = above.map Node.name →
          SublistForall₂ Place.Grows (child.placesBelow above) (grown.placesBelow others))
        old.children new.children :=
      Text.counterparts_of_getElem? room fun position child grown there now =>
        ⟨below position child grown there now, ih position child grown there now⟩
    rw [placesBelow_eq_flatMap, placesBelow_eq_flatMap]
    refine Text.counterparts_flatMap paired fun child further ⟨grownChild, deeper⟩ => ?_
    -- The child has its counterpart, and the nodes above both have the same names.
    refine .cons ⟨level, grown.names_prefix, grownChild⟩ (deeper ?_)
    rw [List.map_append, List.map_append, level, List.map_singleton, List.map_singleton, grownChild.name_eq]

end Node.Grows

namespace Place.Grows

variable {old new : Place}

/-- A place keeps its way of names. -/
theorem way_name (grown : Place.Grows old new) : new.way Node.name = old.way Node.name := by
  simp [way, grown.above, grown.node.name_eq]

/-- A directory that is listed beside others stays so, under the same path. -/
theorem listed (grown : Place.Grows old new) (shared : old.isShared = true) :
    new.isShared = true ∧ new.listing = old.listing := by
  obtain ⟨-, name, -, directory, sources, -, -⟩ := grown.node
  rw [isShared, Bool.and_eq_true] at shared
  obtain ⟨path, there⟩ := Option.isSome_iff_exists.mp shared.1
  rw [isShared, listing, listing, directory path there, there]
  refine ⟨?_, rfl⟩
  -- Sources and siblings only come to those that are there.
  rw [name]
  rcases Bool.or_eq_true_iff.mp shared.2 with filled | several
  · have more : new.node.sources ≠ [] := fun none => by simp_all
    simp [more]
  · have counts := grown.siblings.sublist.count_le old.node.name
    have enough : 1 < new.siblings.count old.node.name := Nat.lt_of_lt_of_le (of_decide_eq_true several) counts
    simp [enough]

/-- A place claims the same key, and for it at least what it claimed before, in the same order. -/
theorem claim (grown : Place.Grows old new) :
    old.claim.1 = new.claim.1 ∧ old.claim.2.Sublist new.claim.2 := by
  have part : old.node.sources.Sublist new.node.sources := by
    obtain ⟨-, -, -, -, sources, -, -⟩ := grown.node
    exact sources.sublist
  rw [old.claim_eq, new.claim_eq]
  refine ⟨by rw [key, key, grown.way_name], ?_⟩
  cases shared : old.isShared with
  | false => exact part.trans (List.sublist_append_right _ _)
  | true =>
    -- The directory is listed in front of the sources, as it was.
    obtain ⟨still, listing⟩ := grown.listed shared
    simpa [still, listing] using part

end Place.Grows

/-- Claims that have grown in place give at least the same sources for each key, in the same order. -/
theorem sourcesFor_sublist {first second : List Claim} (key : Text)
    (paired : SublistForall₂ (fun claim more => claim.1 = more.1 ∧ claim.2.Sublist more.2) first second) :
    (sourcesFor key first).Sublist (sourcesFor key second) := by
  -- The counterparts have the same keys, so the selection keeps the pairing.
  refine Text.flatMap_sublist (Text.counterparts_filter paired fun claim more same => ?_) fun _ _ same => same.2
  rw [same.1]

/-- A key is listed as a collision with all that is claimed for it, where that is more than one source. -/
theorem mem_collisions_iff {tree : Node} {claim : Claim} :
    claim ∈ collisions tree ↔ claim.2 = sourcesFor claim.1 (claimsBelow [] tree) ∧ 1 < claim.2.length := by
  -- All that is gathered for a key is all that is claimed for it, and where there are two sources there is one.
  rw [collisions, keys_eq_gather, List.mem_filter, mem_gather_iff, decide_eq_true_eq]
  constructor
  · rintro ⟨⟨all, -⟩, several⟩
    exact ⟨all, several⟩
  · rintro ⟨all, several⟩
    exact ⟨⟨all, List.ne_nil_of_length_pos (by omega)⟩, several⟩

/-- A tree that has grown has all collisions that it had, each with at least the same sources. -/
theorem Node.Grows.collisions {old new : Node} (grown : old.Grows new) {claim : Claim}
    (member : claim ∈ collisions old) : ∃ more, (claim.1, more) ∈ collisions new ∧ claim.2.Sublist more := by
  -- The claims of the grown tree follow those of the old one, key by key with at least their sources.
  have paired : SublistForall₂ (fun claim more => claim.1 = more.1 ∧ claim.2.Sublist more.2)
      (claimsBelow [] old) (claimsBelow [] new) := by
    rw [claimsBelow_nil_eq_map, claimsBelow_nil_eq_map, List.sublistForall₂_map_left_iff,
      List.sublistForall₂_map_right_iff]
    have places : SublistForall₂ Place.Grows old.places new.places := grown.places rfl
    obtain ⟨chosen, pairs, part⟩ := List.sublistForall₂_iff.mp places
    exact List.sublistForall₂_iff.mpr ⟨chosen, pairs.imp fun _ _ further => further.claim, part⟩
  obtain ⟨all, several⟩ := mem_collisions_iff.mp member
  have part := sourcesFor_sublist claim.1 paired
  rw [← all] at part
  exact ⟨_, mem_collisions_iff.mpr ⟨rfl, Nat.lt_of_lt_of_le several part.length_le⟩, part⟩

/-- Keys one behind the other find a node by way of the node that the first ones find. -/
theorem Node.find?_append (first second : List Text) (node : Node) :
    find? (first ++ second) node = (find? first node).bind (find? second) := by
  -- Induction on the keys that come first, one step into the tree for each.
  induction first generalizing node with
  | nil => rfl
  | cons key rest ih =>
    rw [List.cons_append, find?_cons, find?_cons, Option.bind_assoc]
    exact congrArg _ (funext ih)

/-- Whether a node has what is laid out of it: a constant some source, and a group some children. -/
def Node.isFilled (node : Node) : Bool :=
  if node.isLeaf then !node.sources.isEmpty else !node.children.isEmpty

/-- In the tree of records, constants have sources, and groups have children. -/
theorem isFilled_of_mem_places {className root : Text} {records : List Record} {place : Place}
    (member : place ∈ (build className root records).places) : place.node.isFilled = true := by
  rw [Node.isFilled]
  cases kind : place.node.directory with
  | none => simpa [Node.isLeaf, kind] using sources_ne_nil_of_mem_places member kind
  | some directory =>
    -- The route that passes the node ends at a node farther down, by way of a child.
    have drawn := portrait_directory (portrait_of_mem_places member)
    rw [kind, eq_comm, Option.map_eq_some_iff] at drawn
    obtain ⟨route, passing, -⟩ := drawn
    have passed : Route.Passes (place.way Node.key) route := by simpa using List.find?_some passing
    obtain ⟨rest, keys⟩ := passed.1
    have further : rest ≠ [] := fun none => passed.2 (by rw [← keys, none, List.append_nil])
    obtain ⟨goal, known, way⟩ := exists_place_of_route className (List.mem_of_find?_eq_some passing)
    -- Looked up in steps, the keys behind those of the place lead into one of its children.
    have differ := siblingsDiffer_key_build className root records
    obtain ⟨_, here, found, -⟩ := Node.find?_way differ member
    obtain ⟨_, there, reached, -⟩ := Node.find?_way differ known
    rw [List.map_nil, List.nil_append] at here there
    rw [← there, way, ← keys, Node.find?_append, here, found, Option.bind_some] at reached
    obtain ⟨key, others, rfl⟩ := List.exists_cons_of_ne_nil further
    have filled : place.node.children ≠ [] := fun none => by
      rw [Node.find?_of_no_children none] at reached
      cases reached
    simpa [Node.isLeaf, kind] using filled

end AssetCatalog.Asset
