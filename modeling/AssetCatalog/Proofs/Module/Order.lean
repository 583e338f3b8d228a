import AssetCatalog.Proofs.Asset.Order
import AssetCatalog.Proofs.Module.ReadBack

/-! What the order of the records decides about a run: whether it is blocked, and the emitted text. -/

namespace AssetCatalog

namespace Asset.Node

/-- What is emitted of a node apart from what lies below it: its name, and its path if it is a constant. -/
def face (node : Node) : Text × Option (Option Text) :=
  (node.name, if node.isLeaf then some node.relative else none)

/-- Whether the same keys find nodes that show the same below two nodes, these included. -/
def Alike (first second : Node) : Prop :=
  ∀ keys, (find? keys first).map face = (find? keys second).map face

/-- What a node shows does not depend on the nodes below it. -/
theorem face_bare (node : Node) : node.bare.face = node.face := rfl

namespace Alike

variable {first second : Node}

/-- Nodes that are alike are so whichever of them is asked. -/
theorem symm (alike : Alike first second) : Alike second first := fun keys => (alike keys).symm

/-- Nodes that are alike show the same themselves. -/
theorem face_eq (alike : Alike first second) : first.face = second.face := by
  simpa [find?] using alike []

/-- Each child of a node has its like, with the same key, among the children of a node that is alike. -/
theorem child {below : Node} (alike : Alike first second) (distinct : (first.children.map Node.key).Nodup)
    (member : below ∈ first.children) :
    ∃ other ∈ second.children, other.key = below.key ∧ Alike below other := by
  -- The key of the child finds the child in one node and its like in the other.
  have picked := find?_key_of_mem distinct member
  obtain ⟨other, found⟩ : ∃ other, second.children.find? (fun node => node.key == below.key) = some other := by
    have shown := alike [below.key]
    rw [find?_cons, find?_cons, picked] at shown
    rw [← Option.isSome_iff_exists]
    cases absent : second.children.find? fun node => node.key == below.key with
    | none => simp [absent, find?] at shown
    | some _ => rfl
  refine ⟨other, List.mem_of_find?_eq_some found, by simpa using List.find?_some found, fun keys => ?_⟩
  simpa [find?_cons, picked, found] using alike (below.key :: keys)

/-- What is the same for each child and its like is the same for all children of nodes that are alike. -/
theorem map_children_perm {β : Type} {image : Node → β} (alike : Alike first second)
    (distinct : (first.children.map Node.key).Nodup) (alsoDistinct : (second.children.map Node.key).Nodup)
    (equal : ∀ child ∈ first.children, ∀ like ∈ second.children, Alike child like → image child = image like) :
    (first.children.map image).Perm (second.children.map image) := by
  -- Together with the keys nothing comes twice, so that it is enough for either side to be found on the other.
  have keyed : (first.children.map fun child => (child.key, image child)).Perm
      (second.children.map fun child => (child.key, image child)) := by
    refine (List.perm_ext_iff_of_nodup ?_ ?_).mpr fun entry => ?_
    · refine List.Nodup.of_map Prod.fst ?_
      rwa [List.map_map]
    · refine List.Nodup.of_map Prod.fst ?_
      rwa [List.map_map]
    · constructor
      · intro member
        obtain ⟨child, below, rfl⟩ := List.mem_map.mp member
        obtain ⟨like, known, key, pair⟩ := alike.child distinct below
        exact List.mem_map.mpr ⟨like, known, by rw [key, equal child below like known pair]⟩
      · intro member
        obtain ⟨like, known, rfl⟩ := List.mem_map.mp member
        obtain ⟨child, below, key, pair⟩ := alike.symm.child alsoDistinct known
        exact List.mem_map.mpr ⟨child, below, by rw [key, equal child below like known pair.symm]⟩
  -- The keys may be forgotten again.
  have images := keyed.map Prod.snd
  rwa [List.map_map, List.map_map] at images

end Alike

end Asset.Node

namespace Layout

open Asset (Node)

/-- A class is laid out by the blocks of its children, the constants before the groups. -/
theorem groupLines_eq_blocks (base : Text) (depth : Nat) (node : Node) :
    groupLines base depth node =
      (indent depth ++ "class " ++ node.name ++ "(_AssetGroup):") ::
        opening depth (node.children.map (block base (depth + 1))).isEmpty
        ++ linesByName ((node.children.map (block base (depth + 1))).filter Block.isConstant)
        ++ linesByName ((node.children.map (block base (depth + 1))).filter fun block => !block.isConstant) := by
  -- The layout goes by the recursion over the children, which is a map.
  cases node
  rw [groupLines, childBlocks_eq_map]

/-- Blocks with distinct names are laid out in one way, in whatever order they come. -/
theorem linesByName_eq_of_perm {first second : List Block} (same : first.Perm second)
    (distinct : (first.map Block.name).Nodup) : linesByName first = linesByName second := by
  rw [linesByName, linesByName, Text.sortBy_eq_of_perm same distinct]

/-- Nodes that are alike have the same block, where their classes have the same lines. -/
theorem block_eq_of_alike {base : Text} {depth : Nat} {child like : Node} (alike : Node.Alike child like)
    (lines : groupLines base depth child = groupLines base depth like) :
    block base depth child = block base depth like := by
  -- Nodes that look alike are leaves alike, and a block is made of what shows.
  obtain ⟨name, kind⟩ := Prod.mk.inj alike.face_eq
  have leaf : child.isLeaf = like.isLeaf := by
    cases left : child.isLeaf <;> cases right : like.isLeaf <;> simp_all
  cases right : like.isLeaf with
  | true => simp_all [block]
  | false => simp_all [block]

/-- Trees that are alike have classes with the same lines, if names tell siblings apart. -/
theorem groupLines_eq_of_alike (base : Text) (node : Node) :
    ∀ {other : Node} (depth : Nat), Node.Alike node other → Node.SiblingsDiffer Node.key node →
      Node.SiblingsDiffer Node.key other → Node.SiblingsDiffer Node.name node →
        groupLines base depth node = groupLines base depth other := by
  -- Both nodes have the same blocks, which are laid out by their names and not by their order.
  induction node using Node.induction with
  | step node ih =>
    intro other depth alike keys otherKeys names
    have blocks : (node.children.map (block base (depth + 1))).Perm
        (other.children.map (block base (depth + 1))) :=
      alike.map_children_perm keys.nodup otherKeys.nodup fun child below like known pair =>
        block_eq_of_alike pair
          (ih child below (depth + 1) pair (keys.child below) (otherKeys.child known) (names.child below))
    -- Blocks have the names of their children, which differ, so that sorting leaves one order.
    have distinct : ((node.children.map (block base (depth + 1))).map Block.name).Nodup := by
      rw [List.map_map]
      exact names.nodup
    rw [groupLines_eq_blocks, groupLines_eq_blocks, (Prod.mk.inj alike.face_eq).1, blocks.isEmpty_eq,
      linesByName_eq_of_perm (blocks.filter _) (distinct.sublist (List.filter_sublist.map _)),
      linesByName_eq_of_perm (blocks.filter _) (distinct.sublist (List.filter_sublist.map _))]

end Layout

namespace Asset

variable {className root : Text} {records others : List Record}

/-- In another order there is a route of some kind if there was one. -/
theorem isSome_find?_of_perm {files others : List Route} (same : files.Perm others) (kind : Route → Bool) :
    (others.find? kind).isSome = (files.find? kind).isSome := by
  -- Whether there is one is a matter of membership only.
  rw [Bool.eq_iff_iff, List.find?_isSome, List.find?_isSome]
  exact ⟨fun ⟨route, member, good⟩ => ⟨route, same.symm.subset member, good⟩,
    fun ⟨route, member, good⟩ => ⟨route, same.subset member, good⟩⟩

/-- A portrait shows the name that the first route has for the node, and a path where no route passes the node. -/
theorem face_portrait (files : List Route) (keys : List Text) :
    (portrait files keys).map Node.face = (files.find? (Route.Reaches keys ·)).map fun first =>
      (first.names[keys.length - 1]?.getD [],
        if (files.find? (Route.Passes keys ·)).isSome then none
        else some (if first.keys = keys then some first.path else none)) := by
  -- A portrait takes its name from the first route, and its path only if it has no directory.
  rw [portrait, Option.map_map]
  cases files.find? (Route.Passes keys ·) <;> simp [Function.comp_def, Node.face, Node.isLeaf]

/-- Routes in another order portray nodes that show the same, if files are apart and directories spelled alike. -/
theorem face_portrait_of_perm {files others : List Route} (same : files.Perm others)
    (apart : FilesApart files) (alike : SpelledAlike files) {keys : List Text} (below : keys ≠ []) :
    (portrait files keys).map Node.face = (portrait others keys).map Node.face := by
  have known := isSome_find?_of_perm same (Route.Reaches keys ·)
  rw [face_portrait, face_portrait, isSome_find?_of_perm same (Route.Passes keys ·)]
  cases found : files.find? (Route.Reaches keys ·) with
  | none =>
    rw [found, Option.isSome_none, Option.isSome_eq_false_iff, Option.isNone_iff_eq_none] at known
    rw [known, Option.map_none]
  | some first =>
    rw [found, Option.isSome_some, Option.isSome_iff_exists] at known
    obtain ⟨second, alsoFound⟩ := known
    have inFirst := List.mem_of_find?_eq_some found
    have inSecond := same.symm.subset (List.mem_of_find?_eq_some alsoFound)
    have reached : Route.Reaches keys first := by simpa using List.find?_some found
    have alsoReached : Route.Reaches keys second := by simpa using List.find?_some alsoFound
    -- Both routes go through the node, where directories are spelled alike and files apart.
    have name : first.names[keys.length - 1]? = second.names[keys.length - 1]? := by
      have positive : 0 < keys.length := List.length_pos_iff.mpr below
      have within := reached.length_le
      refine alike.names_eq apart inFirst inSecond ⟨by omega, ?_⟩
      rw [Nat.sub_add_cancel positive, Route.reaches_iff_take.mp reached,
        Route.reaches_iff_take.mp alsoReached]
    rw [alsoFound, Option.map_some, Option.map_some, name]
    -- A node that a route passes shows no path, and where none does, a single route ends.
    by_cases passed : ∃ route ∈ files, Route.Passes keys route
    · have group : (files.find? (Route.Passes keys ·)).isSome = true := by simpa using passed
      rw [if_pos group, if_pos group]
    · have ends := ((Route.reaches_iff _ _).mp reached).resolve_left fun passes =>
        passed ⟨first, inFirst, passes⟩
      have alsoEnds := ((Route.reaches_iff _ _).mp alsoReached).resolve_left fun passes =>
        passed ⟨second, inSecond, passes⟩
      obtain rfl := List.inj_on_of_nodup_map apart.distinct inFirst inSecond (ends.trans alsoEnds.symm)
      rfl

/-- Reordered records make trees that are alike, if files are apart and directories are spelled alike. -/
theorem alike_build (same : records.Perm others) (apart : FilesApart (routes root records))
    (alike : SpelledAlike (routes root records)) :
    Node.Alike (build className root records) (build className root others) := by
  intro keys
  -- Below the outermost node, what is shown is what the portrait of the routes shows.
  by_cases below : keys = []
  · subst below
    have face : ∀ records, (build className root records).face = (Node.empty className).face := fun records => by
      rw [← Node.face_bare, bare_build]
    simp [Node.find?, face]
  · -- A node is found with the portrait of the routes as its bare form.
    have told : ∀ records, (Node.find? keys (build className root records)).map Node.face =
        (portrait (routes root records) keys).map Node.face := by
      intro records
      rw [← bare_find?_build className root records below, Option.map_map]
      rfl
    rw [told, told, face_portrait_of_perm (routes_perm root same) apart alike below]

/-- A tree of records has children exactly if one of the records names a file. -/
theorem isEmpty_children_build (className root : Text) (records : List Record) :
    (build className root records).children.isEmpty = (routes root records).isEmpty := by
  cases ways : routes root records with
  | nil => rw [build_eq_foldl_routes, ways]; rfl
  | cons route rest =>
    -- The node of the file stands at a place, and without children there are no places.
    obtain ⟨place, member, _⟩ := exists_place_of_route className (by rw [ways]; exact List.mem_cons_self)
    obtain ⟨child, below, _⟩ := Node.mem_placesBelow_iff.mp member
    simpa using List.ne_nil_of_mem below

end Asset

open Asset (Record build collisions routes)

/-- A run is free of duplicate keys exactly if the tree of its records has no collisions. -/
theorem ok_generate (records : List Record) (target : Target) :
    (generate records target).ok = true ↔ collisions (build target.className target.rootDirectory records) = [] := by
  simp only [generate, Generation.ok, Asset.build_beneath]
  by_cases childless : (build target.className target.rootDirectory records).children.isEmpty = true
  · -- Nothing is claimed in a tree without children.
    have free : collisions (build target.className target.rootDirectory records) = [] := by
      have bare : (build target.className target.rootDirectory records).places = [] := by
        rw [Asset.Node.places, Asset.Node.placesBelow_eq_flatMap, List.isEmpty_iff.mp childless, List.flatMap_nil]
      simp [Asset.collisions_eq_nil_iff_places, bare]
    simp [childless, free]
  · cases free : collisions (build target.className target.rootDirectory records) <;> simp [childless]

/--
Whether a run is blocked depends on the order of its records only through contested identifiers.

Without one, every order of the records is blocked or none is.
With one, there is an order that is blocked, whatever becomes of the others.
-/
theorem ok_generate_reordered (records : List Record) (target : Target) :
    (¬ Asset.Contested (routes target.rootDirectory records) → ∀ others, records.Perm others →
      (generate records target).ok = (generate others target).ok) ∧
    (Asset.Contested (routes target.rootDirectory records) → ∃ others, records.Perm others ∧
      (generate others target).ok = false) := by
  constructor
  · intro calm others same
    -- Neither order changes what is contested, so each verdict carries over to the other.
    have reordered := Asset.routes_perm target.rootDirectory same
    rw [Bool.eq_iff_iff, ok_generate, ok_generate]
    exact ⟨Asset.collisions_eq_nil_of_perm same calm, Asset.collisions_eq_nil_of_perm same.symm
      fun contested => calm (contested.perm reordered.symm)⟩
  · intro contested
    obtain ⟨others, same, collided⟩ := Asset.exists_perm_collisions target.className contested
    refine ⟨others, same, ?_⟩
    rw [← Bool.not_eq_true, ok_generate]
    exact collided

/-- Three spellings of two directories are blocked in one order and not in another. -/
theorem ok_generate_not_perm :
    let records : List Record := [⟨"/w/a-b/x".toList, true⟩, ⟨"/w/ab/y".toList, true⟩, ⟨"/w/aB/z".toList, true⟩]
    let others : List Record := [⟨"/w/a-b/x".toList, true⟩, ⟨"/w/aB/z".toList, true⟩, ⟨"/w/ab/y".toList, true⟩]
    records.Perm others ∧ (generate records ⟨['C'], ['/'], ['w']⟩).ok = true ∧
      (generate others ⟨['C'], ['/'], ['w']⟩).ok = false := by
  decide +kernel

/-- Two spellings of one directory without a sibling leave the verdict to neither order. -/
theorem ok_generate_reordered_spellings :
    let records : List Record := [⟨"/w/ab/x".toList, true⟩, ⟨"/w/aB/y".toList, true⟩]
    ¬ Asset.Contested (routes ['w'] records) ∧
      (generate records ⟨['C'], ['/'], ['w']⟩).ok = (generate records.reverse ⟨['C'], ['/'], ['w']⟩).ok := by
  -- The other order is a permutation, and the general law applies to all of them.
  intro records
  have calm : ¬ Asset.Contested (routes ['w'] records) := by decide +kernel
  exact ⟨calm, (ok_generate_reordered records ⟨['C'], ['/'], ['w']⟩).1 calm _ (List.reverse_perm records).symm⟩

/-- A module has a file name exactly if it has a text. -/
theorem sourceName_generate (records : List Record) (target : Target) :
    (generate records target).sourceName =
      if (generate records target).source.isEmpty then [] else moduleFileName target.className := by
  -- Only the outcome that emits a module has either.
  simp only [Generation.sourceName, Generation.source, generate]
  split_ifs <;> simp_all [Layout.moduleText]

/-- Reordered records have the same number of records beneath the asset root. -/
theorem assetCount_generate_of_perm {records others : List Record} (same : records.Perm others) (target : Target) :
    (generate records target).assetCount = (generate others target).assetCount :=
  (same.filter _).length_eq

/-- Reordered records have the same module, if there are no collisions and directories are spelled alike. -/
theorem moduleText_build_of_perm {className root : Text} {records others : List Record} (base : Text)
    (same : records.Perm others) (alike : Asset.SpelledAlike (routes root records))
    (free : collisions (build className root records) = []) :
    Layout.moduleText base (build className root records) = Layout.moduleText base (build className root others) := by
  -- The trees differ in the order of children only, and the layout sorts those by name.
  obtain ⟨apart, differ⟩ := Asset.collisions_eq_nil_iff_apart.mp free
  rw [Layout.moduleText, Layout.moduleText, Layout.groupLines_eq_of_alike base _ 0 (Asset.alike_build same apart alike)
    (Asset.siblingsDiffer_key_build _ _ _) (Asset.siblingsDiffer_key_build _ _ _) differ]

/--
A run over directories that are spelled alike does not depend on the order of its records.

The verdict, the text, the file name and the number of assets are the same for every order.
-/
theorem generate_perm (records others : List Record) (target : Target) (same : records.Perm others)
    (alike : Asset.SpelledAlike (routes target.rootDirectory records)) :
    (generate records target).ok = (generate others target).ok ∧
      (generate records target).source = (generate others target).source ∧
      (generate records target).sourceName = (generate others target).sourceName ∧
      (generate records target).assetCount = (generate others target).assetCount := by
  have reordered := Asset.routes_perm target.rootDirectory same
  -- Without collisions in one order, no identifier is contested, and there are none in the other order.
  have verdict : collisions (build target.className target.rootDirectory records) = [] ↔
      collisions (build target.className target.rootDirectory others) = [] := by
    constructor
    · intro free
      have apart := Asset.filesApart_of_collisions_eq_nil free
      exact Asset.collisions_eq_nil_of_perm same (alike.not_contested apart) free
    · intro free
      have apart := Asset.filesApart_of_collisions_eq_nil free
      exact Asset.collisions_eq_nil_of_perm same.symm ((alike.perm reordered).not_contested apart) free
  have source : (generate records target).source = (generate others target).source := by
    rw [source_generate, source_generate, Asset.isEmpty_children_build, Asset.isEmpty_children_build,
      reordered.isEmpty_eq]
    -- Without collisions both texts are laid out, and else there is none.
    by_cases free : collisions (build target.className target.rootDirectory records) = []
    · rw [moduleText_build_of_perm target.pathBase same alike free, free, verdict.mp free]
    · have blocked : ¬ collisions (build target.className target.rootDirectory others) = [] :=
        fun other => free (verdict.mpr other)
      rw [← List.isEmpty_iff] at free blocked
      rw [if_neg free, if_neg blocked]
  refine ⟨?_, source, ?_, assetCount_generate_of_perm same target⟩
  · rw [Bool.eq_iff_iff, ok_generate, ok_generate, verdict]
  · rw [sourceName_generate, sourceName_generate, source]

/-- Two files of one directory make one module in either order. -/
theorem generate_perm_directory :
    let records : List Record := [⟨"/w/a/x".toList, true⟩, ⟨"/w/A/y".toList, true⟩]
    (generate records ⟨['C'], ['/'], ['w']⟩).source ≠ [] ∧
      (generate records ⟨['C'], ['/'], ['w']⟩).source = (generate records.reverse ⟨['C'], ['/'], ['w']⟩).source := by
  -- The two orders are permutations of each other, and both spell the directory alike.
  intro records
  refine ⟨source_ne_nil (by decide +kernel) (by decide +kernel), ?_⟩
  exact (generate_perm records records.reverse ⟨['C'], ['/'], ['w']⟩ (List.reverse_perm records).symm
    (by decide +kernel)).2.1

end AssetCatalog
