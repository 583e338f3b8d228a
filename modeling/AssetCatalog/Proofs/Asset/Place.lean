import AssetCatalog.Proofs.Asset.Build

/-! The nodes of a tree listed with the ways that lead to them. -/

namespace AssetCatalog.Asset

/-- What holds of a node whenever it holds of its children holds of every node. -/
theorem Node.induction {motive : Node → Prop}
    (step : ∀ node, (∀ child ∈ node.children, motive child) → motive node) (node : Node) :
    motive node := by
  -- A child is smaller than its node, because the node holds the list of its children.
  refine step node fun child member => Node.induction step child
termination_by sizeOf node
decreasing_by
  have smaller := List.sizeOf_lt_of_mem member
  cases node
  simp only [Node.mk.sizeOf_spec] at smaller ⊢
  omega

/-- A node below the root of a tree, with the nodes through which it is reached. -/
structure Place where
  /-- The nodes between the root and the node, from the top down. -/
  above : List Node
  /-- The names of the node and its siblings. -/
  siblings : List Text
  /-- The node itself. -/
  node : Node

namespace Place

/-- The labels on the way to a place, its own label at the end. -/
def way (label : Node → Text) (place : Place) : List Text :=
  -- The labels may be keys, by which nodes are found, or names, by which they are bound.
  (place.above ++ [place.node]).map label

/-- The way to a place is not empty. -/
theorem way_ne_nil (label : Node → Text) (place : Place) : place.way label ≠ [] := by
  simp [way]

end Place

namespace Node

mutual

/-- The places below a node, from the top down and in the order of the children. -/
def placesBelow (above : List Node) : Node → List Place
  -- The nodes above grow by one at each level.
  | ⟨_, _, _, _, _, children⟩ => placesOf above (children.map Node.name) children

/-- The places of some children of a node and those below them. -/
def placesOf (above : List Node) (siblings : List Text) : List Node → List Place
  | [] => []
  | child :: rest =>
    ⟨above, siblings, child⟩ :: placesBelow (above ++ [child]) child ++ placesOf above siblings rest

end

/-- All places of a tree. -/
def places (tree : Node) : List Place :=
  placesBelow [] tree

/-- The places of children are those of the single children, one after the other. -/
theorem placesOf_eq_flatMap (above : List Node) (siblings : List Text) (children : List Node) :
    placesOf above siblings children = children.flatMap fun child =>
      ⟨above, siblings, child⟩ :: placesBelow (above ++ [child]) child := by
  -- Each child is followed by what is below it, before the next child comes.
  induction children with
  | nil => rfl
  | cons child rest ih => rw [placesOf, ih, List.flatMap_cons]

/-- The places below a node are its children, each with the places below it. -/
theorem placesBelow_eq_flatMap (above : List Node) (node : Node) :
    placesBelow above node = node.children.flatMap fun child =>
      ⟨above, node.children.map Node.name, child⟩ :: placesBelow (above ++ [child]) child := by
  cases node
  rw [placesBelow, placesOf_eq_flatMap]

/-- A place below a node is a child of the node or lies below a child. -/
theorem mem_placesBelow_iff {above : List Node} {node : Node} {place : Place} :
    place ∈ placesBelow above node ↔ ∃ child ∈ node.children,
      place = ⟨above, node.children.map Node.name, child⟩ ∨
        place ∈ placesBelow (above ++ [child]) child := by
  -- Being in one of the lists for the children is what the right side says.
  rw [placesBelow_eq_flatMap]
  simp

/-- The children of the node at a place stand at places themselves. -/
theorem mem_placesBelow_of_mem_children (node : Node) :
    ∀ {above : List Node} {place : Place} {child : Node}, place ∈ placesBelow above node →
      child ∈ place.node.children →
        ⟨place.above ++ [place.node], place.node.children.map Node.name, child⟩ ∈
          placesBelow above node := by
  -- The node at the place is a child itself or lies deeper, where the hypothesis covers it.
  induction node using Node.induction with
  | step node ih =>
    intro above place child member below
    obtain ⟨first, known, rfl | deeper⟩ := mem_placesBelow_iff.mp member
    · exact mem_placesBelow_iff.mpr ⟨first, known, .inr (mem_placesBelow_iff.mpr ⟨child, below, .inl rfl⟩)⟩
    · exact mem_placesBelow_iff.mpr ⟨first, known, .inr (ih first known deeper below)⟩

/-- The nodes above a place below a node begin with those above the node. -/
theorem above_of_mem_placesBelow (node : Node) :
    ∀ {above : List Node} {place : Place}, place ∈ placesBelow above node →
      ∃ between, place.above = above ++ between := by
  -- Each level on the way down puts one more node behind those above.
  induction node using Node.induction with
  | step node ih =>
    intro above place member
    obtain ⟨child, below, rfl | deeper⟩ := mem_placesBelow_iff.mp member
    · exact ⟨[], (List.append_nil above).symm⟩
    · obtain ⟨between, same⟩ := ih child below deeper
      exact ⟨child :: between, by rw [same, List.append_assoc, List.singleton_append]⟩

/-- The way to a place goes on from the way to the node above it. -/
theorem way_of_mem_placesBelow (label : Node → Text) {node : Node} {above : List Node} {place : Place}
    (member : place ∈ placesBelow above node) :
    ∃ next rest, place.way label = above.map label ++ next :: rest := by
  obtain ⟨between, same⟩ := above_of_mem_placesBelow node member
  -- The way ends in the place itself, so there is a label behind those above the node.
  cases between with
  | nil => exact ⟨label place.node, [], by simp [Place.way, same]⟩
  | cons child rest => exact ⟨label child, (rest ++ [place.node]).map label, by simp [Place.way, same]⟩

/-- Where a label tells siblings apart, the ways of labels tell all places apart. -/
theorem nodup_ways {label : Node → Text} (node : Node) :
    ∀ {above : List Node}, SiblingsDiffer label node →
      ((placesBelow above node).map (Place.way label)).Nodup := by
  induction node using Node.induction with
  | step node ih =>
    intro above differ
    rw [placesBelow_eq_flatMap, List.map_flatMap, List.nodup_flatMap]
    constructor
    · intro child below
      rw [List.map_cons, List.nodup_cons]
      refine ⟨?_, ih child below (differ.child below)⟩
      -- A place below the child has a longer way than the child.
      intro member
      obtain ⟨place, deeper, same⟩ := List.mem_map.mp member
      obtain ⟨next, rest, way⟩ := way_of_mem_placesBelow label deeper
      rw [way] at same
      have lengths := congrArg List.length same
      simp [Place.way] at lengths
    · -- Every way in the part of a child leads through the label of the child.
      have through : ∀ child way, way ∈ (⟨above, node.children.map Node.name, child⟩ ::
          placesBelow (above ++ [child]) child : List Place).map (Place.way label) →
            ∃ rest, way = above.map label ++ label child :: rest := by
        intro child way member
        obtain ⟨place, part, rfl⟩ := List.mem_map.mp member
        rcases List.mem_cons.mp part with rfl | deeper
        · exact ⟨[], by simp [Place.way]⟩
        · obtain ⟨next, rest, way⟩ := way_of_mem_placesBelow label deeper
          exact ⟨next :: rest, by simp [way]⟩
      refine (List.pairwise_map.mp differ.nodup).imp ?_
      intro first second different way inFirst inSecond
      obtain ⟨rest, rfl⟩ := through first way inFirst
      obtain ⟨rest', same⟩ := through second _ inSecond
      exact different (List.cons.inj (List.append_cancel_left same)).1

/-- Among children with distinct keys, each is found by its own key. -/
theorem find?_key_of_mem {children : List Node} (distinct : (children.map Node.key).Nodup)
    {child : Node} (member : child ∈ children) :
    children.find? (fun other => other.key == child.key) = some child := by
  -- A child in front with the same key would be a second one with it.
  induction children with
  | nil => simp at member
  | cons first rest ih =>
    obtain ⟨fresh, distinct⟩ := List.nodup_cons.mp distinct
    rcases List.mem_cons.mp member with rfl | later
    · simp
    · have other : first.key ≠ child.key := fun same =>
        fresh (List.mem_map.mpr ⟨child, later, same.symm⟩)
      rw [List.find?_cons_of_neg (by simpa using other), ih distinct later]

/-- Places with the same keys above them that lie below children lie below the same child. -/
theorem eq_of_above {node first second : Node} {above : List Node} {place other : Place}
    (differ : SiblingsDiffer Node.key node) (below : first ∈ node.children)
    (alsoBelow : second ∈ node.children) (deep : place ∈ placesBelow (above ++ [first]) first)
    (alsoDeep : other ∈ placesBelow (above ++ [second]) second)
    (level : place.above.map Node.key = other.above.map Node.key) : first = second := by
  -- The children are the next nodes on the two ways, behind those that the ways share.
  obtain ⟨between, way⟩ := above_of_mem_placesBelow first deep
  obtain ⟨between', way'⟩ := above_of_mem_placesBelow second alsoDeep
  simp only [way, way', List.append_assoc, List.singleton_append, List.map_append, List.map_cons] at level
  -- Behind the common start, the keys go on with those of the two children.
  have keys := List.append_cancel_left level
  exact List.inj_on_of_nodup_map differ.nodup below alsoBelow (List.cons.inj keys).1

/-- A place below a child has more nodes above it than the child. -/
theorem above_ne_of_mem_placesBelow {node : Node} {above : List Node} {place : Place}
    (deep : place ∈ placesBelow (above ++ [node]) node) :
    above.map Node.key ≠ place.above.map Node.key := by
  -- The child itself is among the nodes above the place.
  obtain ⟨between, way⟩ := above_of_mem_placesBelow node deep
  intro level
  have lengths := congrArg List.length level
  simp only [way, List.length_map, List.length_append, List.length_singleton] at lengths
  omega

/-- A label tells siblings apart exactly if it does so for places with the same keys above them. -/
theorem siblingsDiffer_iff_places {label : Node → Text} (node : Node) :
    ∀ above : List Node, SiblingsDiffer Node.key node →
      (SiblingsDiffer label node ↔
        ∀ first ∈ placesBelow above node, ∀ second ∈ placesBelow above node,
          first.above.map Node.key = second.above.map Node.key → first.node.key ≠ second.node.key →
            label first.node ≠ label second.node) := by
  induction node using Node.induction with
  | step node ih =>
    intro above keys
    constructor
    · intro differ first member second alsoMember level different same
      obtain ⟨child, below, part⟩ := mem_placesBelow_iff.mp member
      obtain ⟨child', below', part'⟩ := mem_placesBelow_iff.mp alsoMember
      -- Places at one level are both children here, or lie both below one child.
      rcases part with rfl | deeper <;> rcases part' with rfl | deeper'
      · exact different (congrArg Node.key (List.inj_on_of_nodup_map differ.nodup below below' same))
      · exact above_ne_of_mem_placesBelow deeper' level
      · exact above_ne_of_mem_placesBelow deeper level.symm
      · obtain rfl := eq_of_above keys below below' deeper deeper' level
        exact (ih child below _ (keys.child below)).mp (differ.child below) first deeper second deeper'
          level different same
    · intro apart
      constructor
      -- Two children have the same nodes above them, and so have two places below a child.
      · refine List.pairwise_map.mpr ((List.pairwise_map.mp keys.nodup).imp_of_mem ?_)
        intro first second below below' different
        exact apart _ (mem_placesBelow_iff.mpr ⟨first, below, .inl rfl⟩)
          _ (mem_placesBelow_iff.mpr ⟨second, below', .inl rfl⟩) rfl different
      · intro child below
        refine (ih child below (above ++ [child]) (keys.child below)).mpr ?_
        intro first deeper second deeper'
        exact apart first (mem_placesBelow_iff.mpr ⟨child, below, .inr deeper⟩)
          second (mem_placesBelow_iff.mpr ⟨child, below, .inr deeper'⟩)

/-- The names of the nodes that keys lead to, one after the other. -/
def namesAlong : List Text → Node → List Text
  | [], _ => []
  | key :: keys, node =>
    match node.children.find? fun child => child.key == key with
    | some child => child.name :: namesAlong keys child
    | none => []

/-- The keys of the way to a place find its node, by way of the names on the way. -/
theorem find?_way {node : Node} :
    ∀ {above : List Node} {place : Place}, SiblingsDiffer Node.key node →
      place ∈ placesBelow above node →
        ∃ keys, place.way Node.key = above.map Node.key ++ keys ∧
          find? keys node = some place.node ∧
          place.way Node.name = above.map Node.name ++ namesAlong keys node := by
  -- The induction follows the tree, and the keys name one child at each level.
  induction node using Node.induction with
  | step node ih =>
    intro above place differ member
    obtain ⟨child, below, part⟩ := mem_placesBelow_iff.mp member
    -- The child is the only one of its siblings with its key.
    have picked := find?_key_of_mem differ.nodup below
    rcases part with rfl | deeper
    · exact ⟨[child.key], by simp [Place.way], by simp [find?, picked],
        by simp [Place.way, namesAlong, picked]⟩
    · obtain ⟨keys, way, found, names⟩ := ih child below (differ.child below) deeper
      exact ⟨child.key :: keys, by simp [way], by simp [find?, picked, found],
        by simp [names, namesAlong, picked]⟩

/-- Every node found by keys below a node stands at a place whose way has these keys. -/
theorem exists_place_of_find? (keys : List Text) :
    ∀ (above : List Node) {key : Text} {node found : Node}, find? (key :: keys) node = some found →
      ∃ place ∈ placesBelow above node, place.node = found ∧
        place.way Node.key = above.map Node.key ++ key :: keys := by
  -- Each key finds a child, whose own key is the one that was sought.
  induction keys with
  | nil =>
    intro above key node found reached
    obtain ⟨child, picked, same⟩ := Option.bind_eq_some_iff.mp reached
    cases same
    have named : found.key = key := by simpa using List.find?_some picked
    exact ⟨⟨above, node.children.map Node.name, found⟩,
      mem_placesBelow_iff.mpr ⟨found, List.mem_of_find?_eq_some picked, .inl rfl⟩, rfl,
      by simp [Place.way, named]⟩
  | cons next keys ih =>
    intro above key node found reached
    obtain ⟨child, picked, further⟩ := Option.bind_eq_some_iff.mp reached
    have named : child.key = key := by simpa using List.find?_some picked
    -- Below the child the search goes on with one node more above it.
    obtain ⟨place, member, here, way⟩ := ih (above ++ [child]) further
    exact ⟨place, mem_placesBelow_iff.mpr ⟨child, List.mem_of_find?_eq_some picked, .inr member⟩,
      here, by simp [way, named]⟩

end Node

end AssetCatalog.Asset
