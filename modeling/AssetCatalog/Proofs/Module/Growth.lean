import AssetCatalog.Proofs.Asset.Growth
import AssetCatalog.Proofs.Module.Order

/-! What records behind others do to a run: a blocked one stays blocked, and a module keeps its lines and constants. -/

namespace AssetCatalog

open List (SublistForall₂)

namespace Layout

open Asset (Node Place)

/-- Without the blank lines at their ends, lines are a part of others of which they were a part with these. -/
theorem withoutTrailingBlanks_sublist {first second : List Text} (part : first.Sublist second) :
    (withoutTrailingBlanks first).Sublist (withoutTrailingBlanks second) := by
  -- From their ends, the lines are passed until one is met that is not blank.
  suffices passed : ∀ {first second : List Text}, first.Sublist second →
      (first.dropWhile List.isEmpty).Sublist (second.dropWhile List.isEmpty) from
    (passed part.reverse).reverse
  intro first second part
  induction part with
  | slnil => exact .slnil
  | @cons rest others line behind ih =>
    rw [List.dropWhile_cons]
    split
    · exact ih
    · -- A line that is only in the second part ends its passing, and the first one goes on to drop.
      exact ((List.dropWhile_sublist _).trans behind).cons line
  | @cons_cons rest others line behind ih =>
    rw [List.dropWhile_cons, List.dropWhile_cons]
    split
    · exact ih
    · exact behind.cons_cons line

/-- Lines are a part of those that have a blank one behind them. -/
theorem sublist_endBlank (lines : List Text) : lines.Sublist (endBlank lines) := by
  -- At most one line is added, at the end.
  unfold endBlank
  split
  · exact .refl _
  · exact List.sublist_append_left _ _

/-- With a blank line behind both, lines are a part of others of which they were a part without it. -/
theorem endBlank_sublist {first second : List Text} (part : first.Sublist second) :
    (endBlank first).Sublist (endBlank second) := by
  by_cases ended : first.getLast? = some []
  · -- Lines that end in a blank one stay as they are, and the others only grow.
    rw [endBlank_of_ended ended]
    exact part.trans (sublist_endBlank second)
  · rw [endBlank_of_unended ended]
    by_cases alsoEnded : second.getLast? = some []
    · -- The blank line at the end of the others is none of the first lines, which end in another one.
      obtain ⟨before, rfl⟩ := List.getLast?_eq_some_iff.mp alsoEnded
      rw [endBlank_of_ended alsoEnded]
      refine List.Sublist.append ?_ (.refl _)
      obtain ⟨front, last, rfl, inFront, inLast⟩ := List.sublist_append_iff.mp part
      rcases List.sublist_singleton.mp inLast with rfl | rfl
      · simpa using inFront
      · simp at ended
    · rw [endBlank_of_unended alsoEnded]
      exact part.append (.refl _)

/-- Whether a block has become another one of the same name, which has at least its lines. -/
structure Block.Grows (old new : Block) : Prop where
  /-- A constant is one still, and so is a group. -/
  kind : old.isConstant = new.isConstant
  /-- The name is the same. -/
  name : old.name = new.name
  /-- The lines are there, in the same order. -/
  lines : old.lines.Sublist new.lines

/-- Blocks that have grown are laid out with at least the lines that they had. -/
theorem linesByName_sublist {first second : List Block} (paired : SublistForall₂ Block.Grows first second) :
    (linesByName first).Sublist (linesByName second) :=
  -- The blocks are sorted by names that do not change.
  Text.flatMap_sublist (Text.counterparts_sortBy (fun _ _ grown => grown.name) paired) fun _ _ grown => grown.lines

/-- Where nodes hold what is laid out of them and none is in conflict, a node that grows is what it was. -/
theorem isLeaf_of_grows {old new : Node} (grown : old.Grows new) (filled : old.isFilled = true)
    (plain : new.isConflicted = false) : old.isLeaf = new.isLeaf := by
  obtain ⟨-, -, -, directory, sources, -, -⟩ := grown
  cases kind : old.directory with
  | some path => simp [Node.isLeaf, kind, directory path kind]
  | none =>
    -- A constant has a source, which would be in conflict with a directory.
    have held : old.sources ≠ [] := by simpa [Node.isFilled, Node.isLeaf, kind] using filled
    have more : new.sources ≠ [] := fun none => held (List.prefix_nil.mp (none ▸ sources))
    have single : new.directory = none := by simpa [Node.isConflicted, more] using plain
    simp [Node.isLeaf, kind, single]

/-- The block of a node that grows keeps its lines, if a class does so for a node with children. -/
theorem block_grows (base : Text) {depth : Nat} {old new : Node} (grown : old.Grows new)
    (filled : old.isFilled = true) (plain : new.isConflicted = false)
    (lines : old.children ≠ [] → (groupLines base depth old).Sublist (groupLines base depth new)) :
    (block base depth old).Grows (block base depth new) := by
  have kind := isLeaf_of_grows grown filled plain
  refine ⟨kind, grown.name_eq.symm, ?_⟩
  rw [block, block, ← kind, grown.name_eq, grown.relative_eq]
  cases leaf : old.isLeaf with
  | true => exact .refl _
  | false =>
    -- A group that is filled has children.
    have children : old.children ≠ [] := by simpa [Node.isFilled, leaf] using filled
    exact endBlank_sublist (lines children)

/-- The body of a class opens as it did, if the class is the outermost one or has had children. -/
theorem opening_of_grows {depth : Nat} {old new : Node} (room : old.children.length ≤ new.children.length)
    (inhabited : depth = 0 ∨ old.children ≠ []) :
    opening depth old.children.isEmpty = opening depth new.children.isEmpty := by
  rcases inhabited with rfl | inhabited
  · rfl
  · -- Neither class has a filler that could go.
    have more : new.children ≠ [] := fun none => inhabited (by simpa [none] using room)
    rw [List.isEmpty_eq_false_iff.mpr inhabited, List.isEmpty_eq_false_iff.mpr more]

/-- A class keeps its lines when its node grows, where nodes hold what is laid out of them and none is in conflict. -/
theorem groupLines_sublist (base : Text) {old new : Node} (grown : old.Grows new) :
    ∀ {above others : List Node} {depth : Nat}, (∀ place ∈ old.placesBelow above, place.node.isFilled = true) →
      (∀ place ∈ new.placesBelow others, place.node.isConflicted = false) →
      (depth = 0 ∨ old.children ≠ []) → (groupLines base depth old).Sublist (groupLines base depth new) := by
  induction grown with
  | @intro old new key name relative directory sources room below ih =>
    intro above others depth filled plain inhabited
    -- The blocks of the children have grown, each in its place.
    have blocks : SublistForall₂ Block.Grows (old.children.map (block base (depth + 1)))
        (new.children.map (block base (depth + 1))) := by
      rw [List.sublistForall₂_map_left_iff, List.sublistForall₂_map_right_iff]
      refine Text.counterparts_of_getElem? room fun position child grown there now => ?_
      have member := List.mem_of_getElem? there
      have alsoMember := List.mem_of_getElem? now
      refine block_grows base (below position child grown there now)
        (filled _ (Node.mem_placesBelow_iff.mpr ⟨child, member, .inl rfl⟩))
        (plain _ (Node.mem_placesBelow_iff.mpr ⟨grown, alsoMember, .inl rfl⟩)) fun children => ?_
      exact ih position child grown there now
        (fun place deeper => filled place (Node.mem_placesBelow_iff.mpr ⟨child, member, .inr deeper⟩))
        (fun place deeper => plain place (Node.mem_placesBelow_iff.mpr ⟨grown, alsoMember, .inr deeper⟩))
        (.inr children)
    -- Sorted by their names, the grown blocks hold the lines of the old ones, constants and groups apart.
    rw [groupLines_eq_blocks, groupLines_eq_blocks, name, List.isEmpty_map, List.isEmpty_map,
      opening_of_grows room inhabited]
    refine (((List.Sublist.refl _).append ?_).append ?_).cons_cons _
    · exact linesByName_sublist (Text.counterparts_filter blocks fun _ _ grown => grown.kind)
    · exact linesByName_sublist (Text.counterparts_filter blocks fun _ _ grown => by rw [grown.kind])

section Tree

variable {old new : Node} (grown : old.Grows new) (filled : ∀ place ∈ old.places, place.node.isFilled = true)
  (plain : ∀ place ∈ new.places, place.node.isConflicted = false)
include grown filled plain

/-- The body of the outermost class keeps its lines when the tree grows. -/
theorem bodyLines_sublist (base : Text) : (bodyLines base 0 old).Sublist (bodyLines base 0 new) := by
  -- The body is what stands behind the line that opens the class, which both have in common.
  have classes : (groupLines base 0 old).Sublist (groupLines base 0 new) :=
    groupLines_sublist base grown filled plain (.inl rfl)
  rw [groupLines_eq, groupLines_eq, grown.name_eq] at classes
  exact List.cons_sublist_cons.mp classes

/-- The places of a tree that grows are bound as they were, in the same order. -/
theorem bindings_sublist (className base : Text) :
    (old.places.map (Place.binding className base)).Sublist (new.places.map (Place.binding className base)) := by
  have paired : SublistForall₂ Place.Grows old.places new.places := grown.places rfl
  rw [List.map_eq_flatMap, List.map_eq_flatMap]
  refine Text.flatMap_sublist (Text.counterparts_mem paired) fun place further ⟨larger, member, alsoMember⟩ => ?_
  -- All that a binding tells of a place is what stays.
  have kind := isLeaf_of_grows larger.node (filled place member) (plain further alsoMember)
  have same : place.binding className base = further.binding className base := by
    rw [Place.binding, Place.binding, larger.above, larger.node.name_eq, larger.node.relative_eq, kind]
  rw [same]

end Tree

end Layout

open Asset (Node Record build collisions)
open Reader (Binding)

/-- The text of a generated module is cut at line feeds into its front, the lines of its body and nothing. -/
theorem splitOn_moduleText_build (className base root : Text) (records : List Record) :
    (Layout.moduleText base (build className root records)).splitOn '\n' =
      (Reader.front className).dropLast.splitOn '\n' ++
        (Layout.withoutTrailingBlanks (Layout.bodyLines base 0 (build className root records)) ++ [[]]) := by
  rw [Layout.splitOn_moduleText_eq (reads_bodyLines_build className base root records), name_build]

/-- What a run writes has nothing behind its last line feed. -/
theorem nil_mem_splitOn_source (records : List Record) (target : Target) :
    [] ∈ (generate records target).source.splitOn '\n' := by
  -- The text is empty, or ends in a line feed.
  by_cases written : (generate records target).source = []
  · simp [written]
  · rw [(source_of_ne_nil written).2, splitOn_moduleText_build]
    simp

/-- Behind records that make a module, further ones make the module of all, if no keys collide. -/
theorem source_append_of_ne_nil {records added : List Record} {target : Target}
    (free : (generate (records ++ added) target).ok = true) (written : (generate records target).source ≠ []) :
    (generate (records ++ added) target).source = Layout.moduleText target.pathBase
      (build target.className target.rootDirectory (records ++ added)) := by
  -- The files that the first module was written for are there still.
  have filled : Asset.routes target.rootDirectory records ≠ [] := by
    intro none
    rw [source_generate, Asset.isEmpty_children_build, none] at written
    exact written rfl
  have more : (Asset.routes target.rootDirectory (records ++ added)).isEmpty = false := by
    simp [Asset.routes_append, filled]
  rw [ok_generate] at free
  rw [source_generate, Asset.isEmpty_children_build, more, free]
  rfl

/--
Records behind others disturb no module.

Where the module of all records is written, the lines of the module without the further ones are among its lines.
So are the names that were bound within the outermost class, with the same values under the same dotted keys.
An outermost class that is named by an identifier is bound in front of them.
-/
theorem source_generate_append (records added : List Record) (target : Target)
    (free : (generate (records ++ added) target).ok = true) :
    let before := (generate records target).source
    let after := (generate (records ++ added) target).source
    (before.splitOn '\n').Sublist (after.splitOn '\n') ∧
      (before ≠ [] → ∃ bindings more, Reader.readBody? target.className before = some bindings ∧
        Reader.readBody? target.className after = some more ∧ bindings.Subperm more ∧
        (∀ constant ∈ bindings.filterMap Binding.constant?, constant ∈ more.filterMap Binding.constant?) ∧
        (Unicode.isIdentifier target.className = true →
          Reader.read? before = some (⟨[], target.className, none⟩ :: bindings) ∧
            Reader.read? after = some (⟨[], target.className, none⟩ :: more))) := by
  intro before after
  by_cases written : before = []
  · -- Nothing is one line, which is also the last one of all that is written.
    refine ⟨?_, fun filled => absurd written filled⟩
    rw [written]
    exact List.singleton_sublist.mpr (nil_mem_splitOn_source (records ++ added) target)
  · have text : before = _ := (source_of_ne_nil written).2
    have alsoText : after = _ := source_append_of_ne_nil free written
    -- Nodes are added to the tree, and those that were there keep their lines and bindings.
    have grown := Asset.grows_build_append target.className target.rootDirectory records added
    have filled : ∀ place ∈ (build target.className target.rootDirectory records).places,
        place.node.isFilled = true := fun place member => Asset.isFilled_of_mem_places member
    have plain : ∀ place ∈ (build target.className target.rootDirectory (records ++ added)).places,
        place.node.isConflicted = false := fun place member => by
      have single := (Asset.plain_of_collisions_eq_nil ((ok_generate _ _).mp free)).1 place member
      simpa [Node.isConflicted] using single.2
    obtain ⟨bindings, found, same⟩ := Layout.readBody?_moduleText
      (reads_bodyLines_build target.className target.pathBase target.rootDirectory records)
    obtain ⟨more, alsoFound, alsoSame⟩ := Layout.readBody?_moduleText
      (reads_bodyLines_build target.className target.pathBase target.rootDirectory (records ++ added))
    rw [name_build, ← text] at found
    rw [name_build, ← alsoText] at alsoFound
    have part : bindings.Subperm more := same.subperm.trans
      ((Layout.bindings_sublist grown filled plain _ _).subperm.trans alsoSame.symm.subperm)
    refine ⟨?_, fun _ => ⟨bindings, more, found, alsoFound, part, ?_, fun named => ⟨?_, ?_⟩⟩⟩
    · rw [text, alsoText, splitOn_moduleText_build, splitOn_moduleText_build]
      have lines := Layout.withoutTrailingBlanks_sublist (Layout.bodyLines_sublist grown filled plain target.pathBase)
      exact (List.Sublist.refl _).append (lines.append (.refl _))
    · intro constant member
      obtain ⟨binding, bound, value⟩ := List.mem_filterMap.mp member
      exact List.mem_filterMap.mpr ⟨binding, part.subset bound, value⟩
    · rw [text, Layout.moduleText_eq, name_build] at found ⊢
      rw [Reader.read?_front_append named, found, Option.map_some]
    · rw [alsoText, Layout.moduleText_eq, name_build] at alsoFound ⊢
      rw [Reader.read?_front_append named, alsoFound, Option.map_some]

/-- The first file of a directory comes behind a constant, which keeps its lines. -/
theorem source_generate_append_directory :
    let records : List Record := [⟨"/w/b".toList, true⟩]
    let added : List Record := [⟨"/w/a/x".toList, true⟩]
    let before := (generate records ⟨['C'], ['/'], ['w']⟩).source
    let after := (generate (records ++ added) ⟨['C'], ['/'], ['w']⟩).source
    (before.splitOn '\n').Sublist (after.splitOn '\n') ∧
      ∃ bindings, Reader.readBody? ['C'] after = some bindings ∧
        (['B'], ['/', 'b']) ∈ bindings.filterMap Binding.constant? := by
  intro records added before after
  obtain ⟨lines, bound⟩ := source_generate_append records added ⟨['C'], ['/'], ['w']⟩ (by decide +kernel)
  have written : before ≠ [] := source_ne_nil (by decide +kernel) (by decide +kernel)
  obtain ⟨bindings, more, found, alsoFound, _, kept, _⟩ := bound written
  -- The one constant of the first module is among those of the second one.
  have read : (Reader.readBody? ['C'] before).map (List.filterMap Binding.constant?) = some [(['B'], ['/', 'b'])] := by
    decide +kernel
  have constants : bindings.filterMap Binding.constant? = [(['B'], ['/', 'b'])] :=
    Option.some.inj ((congrArg (Option.map (List.filterMap Binding.constant?)) found).symm.trans read)
  exact ⟨lines, more, alsoFound, kept _ (by rw [constants]; exact List.mem_cons_self)⟩

/--
Records behind others resolve no collision.

A key that collided is listed still, and just once, with all that was listed for it in the same order.
So a run that was blocked stays blocked.
-/
theorem collisions_build_append (records added : List Record) (target : Target) :
    let before := collisions (build target.className target.rootDirectory records)
    let after := collisions (build target.className target.rootDirectory (records ++ added))
    (after.map Prod.fst).Nodup ∧
      (∀ claim ∈ before, ∃ sources, (claim.1, sources) ∈ after ∧ claim.2.Sublist sources) ∧
      ((generate records target).ok = false → (generate (records ++ added) target).ok = false) := by
  intro before after
  have grown := Asset.grows_build_append target.className target.rootDirectory records added
  have listed : ∀ claim ∈ before, ∃ sources, (claim.1, sources) ∈ after ∧ claim.2.Sublist sources :=
    fun claim member => grown.collisions member
  refine ⟨?_, listed, fun blocked => ?_⟩
  · -- The collisions are among the keys, of which each is listed once.
    exact (Asset.nodup_gather _).sublist (List.filter_sublist.map _)
  · -- A collision that blocked the first run blocks the second one.
    rw [← Bool.not_eq_true, ok_generate] at blocked ⊢
    obtain ⟨claim, member⟩ := List.exists_mem_of_ne_nil _ blocked
    obtain ⟨_, alsoMember, _⟩ := listed claim member
    exact List.ne_nil_of_mem alsoMember

/-- Two files of one key stay in conflict when a directory of that key comes to them, which is listed in front. -/
theorem collisions_build_append_directory :
    let records : List Record := [⟨"/w/A".toList, true⟩, ⟨"/w/a".toList, true⟩]
    let added : List Record := [⟨"/w/a/x".toList, true⟩]
    collisions (build ['C'] ['w'] records) = [(['A'], ["/w/A".toList, "/w/a".toList])] ∧
      collisions (build ['C'] ['w'] (records ++ added)) = [(['A'], ["a/".toList, "/w/A".toList, "/w/a".toList])] ∧
      (generate (records ++ added) ⟨['C'], ['/'], ['w']⟩).ok = false := by
  -- Both listings are computed, and the general law carries the block over.
  intro records added
  refine ⟨by decide +kernel, by decide +kernel, ?_⟩
  exact (collisions_build_append records added ⟨['C'], ['/'], ['w']⟩).2.2 (by decide +kernel)

end AssetCatalog
