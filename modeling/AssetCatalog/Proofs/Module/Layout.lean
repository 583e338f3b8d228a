import AssetCatalog.Proofs.Asset.Place
import AssetCatalog.Proofs.Module.Reader
import AssetCatalog.Proofs.Text.Sorting

/-! The lines of the emitted classes are read as the nodes of the tree that they were laid out for. -/

namespace AssetCatalog.Layout

open Asset (Node Place)
open Reader (Reads)

/-- The constants and the groups of a group are all of its children. -/
theorem leaves_append_groups_perm (node : Node) : (node.leaves ++ node.groups).Perm node.children :=
  ((Text.sortBy_perm _ _).append (Text.sortBy_perm _ _)).trans (List.filter_append_perm _ _)

/-- The lines below the first line of a class. -/
def bodyLines (base : Text) (depth : Nat) (node : Node) : List Text :=
  -- The constants come first, and the classes below follow them.
  opening depth node.children.isEmpty
    ++ node.leaves.flatMap (fun leaf => constantLines base (depth + 1) leaf.name leaf.relative)
    ++ node.groups.flatMap fun group => endBlank (groupLines base (depth + 1) group)

/-- What is emitted for a child. -/
def block (base : Text) (depth : Nat) (child : Node) : Block :=
  -- A class below has a blank line behind it.
  ⟨child.isLeaf, child.name, if child.isLeaf then constantLines base depth child.name child.relative
    else endBlank (groupLines base depth child)⟩

/-- The blocks of children are those of the single children. -/
theorem childBlocks_eq_map (base : Text) (depth : Nat) (children : List Node) :
    childBlocks base depth children = children.map (block base depth) := by
  -- By the recursion over the children.
  induction children with
  | nil => rfl
  | cons child rest ih => simp only [childBlocks, ih, List.map_cons, block]

/-- Blocks of sorted children are laid out one after the other. -/
theorem linesByName_map_block (base : Text) (depth : Nat) (children : List Node) :
    linesByName (children.map (block base depth)) =
      (Text.sortBy Node.name children).flatMap fun child => (block base depth child).lines := by
  -- Blocks are sorted by their names, which are those of the children.
  have names : Block.name ∘ block base depth = Node.name := rfl
  rw [linesByName, Text.sortBy_map, names, List.flatMap_map]

/-- The class of a group starts with its first line, and has its constants before its groups. -/
theorem groupLines_eq (base : Text) (depth : Nat) (node : Node) :
    groupLines base depth node =
      (indent depth ++ "class " ++ node.name ++ "(_AssetGroup):") :: bodyLines base depth node := by
  -- The blocks of constants are those of the children that are leaves.
  have constants : Block.isConstant ∘ block base (depth + 1) = Node.isLeaf := rfl
  have others : (fun child : Block => !child.isConstant) ∘ block base (depth + 1) =
      fun child => !child.isLeaf := rfl
  have leaves : linesByName ((node.children.filter Node.isLeaf).map (block base (depth + 1))) =
      node.leaves.flatMap fun leaf => constantLines base (depth + 1) leaf.name leaf.relative := by
    rw [linesByName_map_block]
    refine List.flatMap_congr fun leaf member => ?_
    have kind := (List.mem_filter.mp ((Text.sortBy_perm _ _).subset member)).2
    simp [block, kind]
  -- The other blocks are those of the children that are groups, each with a blank line at its end.
  have groups : linesByName ((node.children.filter fun child => !child.isLeaf).map
      (block base (depth + 1))) =
        node.groups.flatMap fun group => endBlank (groupLines base (depth + 1) group) := by
    rw [linesByName_map_block]
    refine List.flatMap_congr fun group member => ?_
    have kind := (List.mem_filter.mp ((Text.sortBy_perm _ _).subset member)).2
    have notLeaf : group.isLeaf = false := by simpa using kind
    simp [block, notLeaf]
  rw [bodyLines, ← leaves, ← groups]
  cases node
  rw [groupLines]
  simp only [childBlocks_eq_map, List.isEmpty_map, List.filter_map, constants, others,
    List.cons_append, List.append_assoc]

end AssetCatalog.Layout

namespace AssetCatalog.Asset

/-- What a module binds for a node: a constant for a file, and a class for a directory. -/
def Place.binding (className base : Text) (place : Place) : Reader.Binding where
  scope := className :: place.above.map Node.name
  name := place.node.name
  value := if place.node.isLeaf then some (webPath base (place.node.relative.getD [])) else none

end AssetCatalog.Asset

namespace AssetCatalog.Layout

open Asset (Node Place)
open Reader (Reads Visible)

section Reading

variable {scope : List Text}

/-- The lines that open a class bind nothing. -/
theorem reads_opening (depth : Nat) (isEmpty : Bool) : Reads scope (opening depth isEmpty) [] := by
  -- These are a docstring in the outermost class and a filler in an empty one.
  unfold opening
  split
  · have idle : Reader.statement? rootDocstring = some .nothing := by decide +kernel
    exact (Reads.idle 1 (Reader.visible_constant (by decide)) (by decide) idle).append .blank
  · split
    · have idle : Reader.statement? "pass".toList = some .nothing := by decide +kernel
      exact (Reads.idle (depth + 1) (by decide) (by decide) idle).append .blank
    · exact .nil

/-- The lines of a constant are read as the constant. -/
theorem reads_constantLines (base : Text) {name : Text} (identifier : Unicode.isIdentifier name = true)
    (relative : Option Text) : Reads scope (constantLines base scope.length name relative)
      [⟨scope, name, some (webPath base (relative.getD []))⟩] := by
  -- The first line is a comment, the second binds the constant, and the third is blank.
  have sign : "#: Path: ".toList = '#' :: ": Path: ".toList := by decide
  have wordless : Unicode.continuesWord '#' = false := by decide +kernel
  have comment : ∀ path : Text, Reads scope [indent scope.length ++ "#: Path: " ++ Literal.escape path] [] := by
    intro path
    have visible : Visible ("#: Path: ".toList ++ Literal.escape path) :=
      (Reader.visible_append _ _).mpr ⟨by decide, Reader.visible_escape path⟩
    rw [List.append_assoc]
    refine Reads.idle _ visible (by simp [sign]) (Reader.statement?_idle ?_ (by simp [Reader.isIdle, sign]))
    simpa [sign] using wordless
  exact (comment _).append ((Reads.constant identifier _).append .blank)

/-- Lines that end in a blank one stay as they are. -/
theorem endBlank_of_ended {lines : List Text} (ended : lines.getLast? = some []) : endBlank lines = lines := by
  rw [endBlank, ended]

/-- Lines that do not end in a blank one are followed by one. -/
theorem endBlank_of_unended {lines : List Text} (unended : lines.getLast? ≠ some []) :
    endBlank lines = lines ++ [[]] := by
  -- The other case is that of lines which end in a blank one.
  unfold endBlank
  split
  · contradiction
  · rfl

/-- A blank line behind lines does not change what is read. -/
theorem reads_endBlank {lines : List Text} {bindings : List Reader.Binding}
    (read : Reads scope lines bindings) : Reads scope (endBlank lines) bindings := by
  -- A blank line binds nothing.
  unfold endBlank
  split
  · exact read
  · simpa using read.append .blank

end Reading

section Children

variable {className base : Text} {above : List Node} {child : Node} (siblings : List Text)
  (named : Unicode.isIdentifier child.name = true)
include named

/-- The lines of a child that is no directory are read as the child, which has none below it. -/
theorem reads_leaf (leaf : child.isLeaf = true) (childless : child.children = []) :
    Reads (className :: above.map Node.name)
      (constantLines base (above.length + 1) child.name child.relative)
      ((⟨above, siblings, child⟩ :: child.placesBelow (above ++ [child]) : List Place).map
        (Place.binding className base)) := by
  -- There are no places below a child without children, so its own line is all.
  have alone : child.placesBelow (above ++ [child]) = [] := by
    rw [Node.placesBelow_eq_flatMap, childless, List.flatMap_nil]
  have read : Reads (className :: above.map Node.name) _ _ := reads_constantLines base named child.relative
  simpa [alone, Place.binding, leaf] using read

/-- The lines of a child that is a directory are read as the child and the places below it, if its body is. -/
theorem reads_group (notLeaf : child.isLeaf = false)
    (body : Reads (className :: (above ++ [child]).map Node.name)
      (bodyLines base (above ++ [child]).length child)
      ((child.placesBelow (above ++ [child])).map (Place.binding className base))) :
    Reads (className :: above.map Node.name) (endBlank (groupLines base (above.length + 1) child))
      ((⟨above, siblings, child⟩ :: child.placesBelow (above ++ [child]) : List Place).map
        (Place.binding className base)) := by
  -- The class is one of those around its body, and the blank line behind it is passed over.
  have read : Reads (className :: above.map Node.name) _ _ := Reads.group named (by simpa using body)
  rw [groupLines_eq]
  simpa [Place.binding, notLeaf] using reads_endBlank read

end Children

/-- The body of a class is read as the places below its node, if these have identifiers for names. -/
theorem reads_bodyLines (className base : Text) (node : Node) :
    ∀ above : List Node,
      (∀ place ∈ node.placesBelow above, Unicode.isIdentifier place.node.name = true) →
      (∀ place ∈ node.placesBelow above, place.node.isLeaf = true → place.node.children = []) →
        Reads (className :: above.map Node.name) (bodyLines base above.length node)
          ((node.placesBelow above).map (Place.binding className base)) := by
  -- The lines of the children are read one child at a time, in another order than that of the places.
  induction node using Node.induction with
  | step node ih =>
    intro above named childless
    have placed : ∀ child ∈ node.children,
        ⟨above, node.children.map Node.name, child⟩ ∈ node.placesBelow above := fun child below =>
      Node.mem_placesBelow_iff.mpr ⟨child, below, .inl rfl⟩
    have leaves : ∀ leaf ∈ node.leaves, Reads (className :: above.map Node.name)
        (constantLines base (above.length + 1) leaf.name leaf.relative)
          ((⟨above, node.children.map Node.name, leaf⟩ :: leaf.placesBelow (above ++ [leaf]) :
            List Place).map (Place.binding className base)) := by
      intro leaf member
      obtain ⟨below, kind⟩ := List.mem_filter.mp ((Text.sortBy_perm _ _).subset member)
      exact reads_leaf _ (named _ (placed leaf below)) kind (childless _ (placed leaf below) kind)
    have groups : ∀ group ∈ node.groups, Reads (className :: above.map Node.name)
        (endBlank (groupLines base (above.length + 1) group))
          ((⟨above, node.children.map Node.name, group⟩ :: group.placesBelow (above ++ [group]) :
            List Place).map (Place.binding className base)) := by
      intro group member
      obtain ⟨below, kind⟩ := List.mem_filter.mp ((Text.sortBy_perm _ _).subset member)
      have deeper : ∀ place ∈ group.placesBelow (above ++ [group]), place ∈ node.placesBelow above :=
        fun place inside => Node.mem_placesBelow_iff.mpr ⟨group, below, .inr inside⟩
      refine reads_group _ (named _ (placed group below)) (by simpa using kind) ?_
      exact ih group below (above ++ [group]) (fun place inside => named place (deeper place inside))
        fun place inside => childless place (deeper place inside)
    -- Constants come before groups in the body, and the children come in one list among the places.
    have all : Reads _ (bodyLines base above.length node) _ :=
      ((reads_opening _ _).append (.flatMap leaves)).append (.flatMap groups)
    refine all.perm ?_
    rw [Node.placesBelow_eq_flatMap, List.map_flatMap, List.nil_append, ← List.flatMap_append]
    exact (leaves_append_groups_perm node).flatMap_right _

end AssetCatalog.Layout
