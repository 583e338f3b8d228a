import AssetCatalog.Proofs.Asset.Route

/-! What one insertion changes in a tree: the nodes on its route, and nothing else. -/

namespace AssetCatalog.Asset

namespace Node

/-- The node without the nodes below it. -/
def bare (node : Node) : Node :=
  -- The children are compared by looking them up in turn.
  { node with children := [] }

/-- The first key of a list picks a child, and the others go on from there. -/
theorem find?_cons (key : Text) (keys : List Text) (node : Node) :
    find? (key :: keys) node =
      (node.children.find? fun child => child.key == key).bind (find? keys) := rfl

/-- Entering a node leaves what lies below it. -/
@[simp] theorem find?_cons_enter (path key : Text) (keys : List Text) (node : Node) :
    find? (key :: keys) (enter path node) = find? (key :: keys) node := rfl

/-- A further source of a node leaves what lies below it. -/
@[simp] theorem find?_cons_addSource (source key : Text) (keys : List Text) (node : Node) :
    find? (key :: keys) (addSource source node) = find? (key :: keys) node := rfl

/-- Nothing lies below a node without children. -/
theorem find?_of_no_children {node : Node} (childless : node.children = []) (key : Text)
    (keys : List Text) : find? (key :: keys) node = none := by
  -- The first key already finds no child.
  rw [find?_cons, childless]
  rfl

section Siblings

variable {key : Text} {fresh : Node} {change : Node → Node}

/-- After the change of a sibling, its key finds it changed and other keys find what they found. -/
theorem find?_changeSibling (kept : ∀ node, (change node).key = node.key)
    (keyed : fresh.key = key) (siblings : List Node) (sought : Text) :
    (changeSibling key fresh change siblings).find? (fun child => child.key == sought) =
      if sought = key then
        some (change ((siblings.find? fun child => child.key == key).getD fresh))
      else siblings.find? fun child => child.key == sought := by
  -- The sibling is changed in its place, or a fresh one is put behind the others.
  induction siblings with
  | nil =>
    by_cases same : sought = key
    · simp [changeSibling, kept, keyed, same]
    · simp [changeSibling, kept, keyed, same, Ne.symm same]
  | cons node rest ih =>
    rw [changeSibling]
    by_cases here : node.key = key
    · -- The sibling stands first and is changed there, which only its own key notices.
      by_cases same : sought = key
      · simp [here, same, kept]
      · have other : node.key ≠ sought := by rw [here]; exact Ne.symm same
        simp [here, same, kept, Ne.symm same]
    · -- The change happens farther on, behind a sibling with another key.
      by_cases same : sought = key
      · subst same
        simpa [here] using ih
      · by_cases first : node.key = sought
        · have other : sought ≠ key := same
          simp [first, other]
        · simpa [here, same, first] using ih

/-- The keys of the siblings stay, with the key of the change behind them where it is new. -/
theorem keys_changeSibling (kept : ∀ node, (change node).key = node.key)
    (keyed : fresh.key = key) (siblings : List Node) :
    (changeSibling key fresh change siblings).map Node.key =
      if key ∈ siblings.map Node.key then siblings.map Node.key
      else siblings.map Node.key ++ [key] := by
  -- A change keeps the key of what it changes, so only a fresh sibling adds one.
  induction siblings with
  | nil => simp [changeSibling, kept, keyed]
  | cons node rest ih =>
    rw [changeSibling]
    by_cases here : node.key = key
    · simp [here, kept]
    · have elsewhere : ¬ key = node.key := Ne.symm here
      by_cases later : key ∈ rest.map Node.key
      · simpa [here, elsewhere, later] using ih
      · simpa [here, elsewhere, later] using ih

/-- Each sibling is an earlier one, an earlier one changed, or the fresh one changed. -/
theorem mem_changeSibling {siblings : List Node} {node : Node}
    (member : node ∈ changeSibling key fresh change siblings) :
    node ∈ siblings ∨ (∃ earlier ∈ siblings, node = change earlier) ∨ node = change fresh := by
  -- The change happens at the first sibling with the key, or behind the last one.
  induction siblings with
  | nil => exact .inr (.inr (by simpa [changeSibling] using member))
  | cons first rest ih =>
    rw [changeSibling] at member
    by_cases here : first.key = key
    · rw [if_pos here] at member
      rcases List.mem_cons.mp member with same | later
      · exact .inr (.inl ⟨first, by simp, same⟩)
      · exact .inl (by simp [later])
    · rw [if_neg here] at member
      rcases List.mem_cons.mp member with same | later
      · exact .inl (by simp [same])
      · -- The change happens farther back, where the hypothesis covers it.
        rcases ih later with old | ⟨earlier, old, changed⟩ | new
        · exact .inl (by simp [old])
        · exact .inr (.inl ⟨earlier, by simp [old], changed⟩)
        · exact .inr (.inr new)

end Siblings

/-- Putting a file below a node changes nothing of the node but its children. -/
@[simp] theorem bare_insertBelow (record : Record) (fileName : Text) (walked directories : List Text)
    (node : Node) : (insertBelow record fileName walked directories node).bare = node.bare := by
  -- Both ways of going on rebuild the node around new children.
  cases directories <;> rfl

/-- A node keeps its key when a file is put below it. -/
@[simp] theorem key_insertBelow (record : Record) (fileName : Text) (walked directories : List Text)
    (node : Node) : (insertBelow record fileName walked directories node).key = node.key := by
  cases directories <;> rfl

/-- Below a node whose child was changed, only the way through that child leads to something new. -/
theorem find?_cons_changeSibling {key : Text} {fresh : Node} {change : Node → Node}
    (kept : ∀ node, (change node).key = node.key) (keyed : fresh.key = key) (node : Node)
    (sought : Text) (keys : List Text) :
    find? (sought :: keys) { node with children := changeSibling key fresh change node.children } =
      if sought = key then
        find? keys (change ((node.children.find? fun child => child.key == key).getD fresh))
      else find? (sought :: keys) node := by
  -- The first key decides which child is entered, and only one child was changed.
  rw [find?_cons, find?_changeSibling kept keyed]
  by_cases same : sought = key
  · simp [same]
  · simp only [if_neg same, find?_cons]

end Node

namespace Route

/-- The node with the given keys after a route was put in, from the node before, children apart. -/
def arrive (walked : List Text) (route : Route) (keys : List Text) (before : Option Node) :
    Option Node :=
  -- The file is added to its node, directories are entered, and other nodes stay as they were.
  if route.keys = keys then
    some (Node.addSource route.record.source (before.getD
      (Node.ofFile route.fileName (Text.joinWith ['/'] (walked ++ route.directories ++ [route.fileName]))
        !route.record.flatten)))
  else if Reaches keys route then
    let path := Text.joinWith ['/'] (walked ++ route.directories.take keys.length)
    some (Node.enter path (before.getD
      (Node.ofDirectory (route.directories[keys.length - 1]?.getD []) path)))
  else before

/-- With no directory left, a route arrives at the child with the key of its file. -/
theorem arrive_nil (walked : List Text) (record : Record) (fileName key : Text) (keys : List Text)
    (before : Option Node) :
    arrive walked ⟨record, [], fileName⟩ (key :: keys) before =
      if key = Name.siblingKey fileName !record.flatten ∧ keys = [] then
        some (Node.addSource record.source (before.getD (Node.ofFile fileName
          (Text.joinWith ['/'] (walked ++ [fileName])) !record.flatten)))
      else before := by
  -- The route has a single key, so the nodes that it reaches are the root and its own node.
  by_cases here : key = Name.siblingKey fileName !record.flatten
  · subst here
    cases keys with
    | nil => simp [arrive, keys_eq]
    | cons next keys =>
      simp [arrive, keys_eq, Reaches]
  · have elsewhere : ¬ Name.siblingKey fileName (!record.flatten) = key := Ne.symm here
    simp [arrive, keys_eq, Reaches, here, elsewhere]

/-- At the key of its first directory a route enters the directory, and below it goes on from there. -/
theorem arrive_cons (walked rest : List Text) (record : Record) (segment fileName key : Text)
    (keys : List Text) (before : Option Node) :
    arrive walked ⟨record, segment :: rest, fileName⟩ (key :: keys) before =
      if key = Name.siblingKey segment false then
        if keys = [] then
          let path := Text.joinWith ['/'] (walked ++ [segment])
          some (Node.enter path (before.getD (Node.ofDirectory segment path)))
        else arrive (walked ++ [segment]) ⟨record, rest, fileName⟩ keys before
      else before := by
  -- A longer list of keys is reached through the first directory by what is left of the route.
  by_cases here : key = Name.siblingKey segment false
  · subst here
    cases keys with
    | nil => simp [arrive, keys_eq, Reaches]
    | cons next keys =>
      have nested : Reaches (Name.siblingKey segment false :: next :: keys)
          ⟨record, segment :: rest, fileName⟩ ↔ Reaches (next :: keys) ⟨record, rest, fileName⟩ := by
        simp [Reaches, keys_eq]
      simp [arrive, keys_eq, nested]
  · have elsewhere : ¬ Name.siblingKey segment false = key := Ne.symm here
    simp [arrive, keys_eq, Reaches, here, elsewhere]

end Route

namespace Node

/-- Putting in a file changes the nodes on its way as its route says, and no other node. -/
theorem bare_find?_insertBelow (record : Record) (fileName : Text) (directories : List Text) :
    ∀ (walked : List Text) (key : Text) (keys : List Text) (node : Node),
      (find? (key :: keys) (insertBelow record fileName walked directories node)).map bare =
        Route.arrive walked ⟨record, directories, fileName⟩ (key :: keys)
          ((find? (key :: keys) node).map bare) := by
  -- The induction follows the descent through the directories.
  induction directories with
  | nil =>
    intro walked key keys node
    have kept : ∀ child, (addSource record.source child).key = child.key := fun _ => rfl
    rw [Route.arrive_nil, insertBelow, find?_cons_changeSibling kept rfl, find?_cons]
    by_cases here : key = Name.siblingKey fileName !record.flatten
    · subst here
      generalize old : (node.children.find? fun child =>
        child.key == Name.siblingKey fileName !record.flatten) = before
      cases keys with
      | nil => cases before <;> simp [find?, ofFile, old] <;> rfl
      | cons next keys =>
        -- Below the file's node nothing changes, and a fresh one has nothing below it.
        cases before with
        | none => simp [ofFile, old, find?_of_no_children]
        | some child => simp [ofFile, old]
    · simp [here, ofFile]
  | cons segment rest ih =>
    intro walked key keys node
    have kept : ∀ child, (insertBelow record fileName (walked ++ [segment]) rest
        (enter (Text.joinWith ['/'] (walked ++ [segment])) child)).key = child.key := by
      simp [enter]
    rw [Route.arrive_cons, insertBelow, find?_cons_changeSibling kept rfl, find?_cons]
    by_cases here : key = Name.siblingKey segment false
    · subst here
      generalize old : (node.children.find? fun child =>
        child.key == Name.siblingKey segment false) = before
      cases keys with
      | nil => cases before <;> simp [find?, ofDirectory, old] <;> rfl
      | cons next keys =>
        -- Below the directory the walk goes on in the child, fresh or not.
        cases before with
        | none => simp [ofDirectory, old, ih, find?_of_no_children]
        | some child => simp [ofDirectory, old, ih]
    · simp [here, ofDirectory]

end Node

end AssetCatalog.Asset
