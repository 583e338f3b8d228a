import AssetCatalog.Proofs.Asset.Insertion
import Mathlib.Data.List.Induction
import Mathlib.Data.List.Nodup

/-! The tree of a list of records, told node by node from the records alone. -/

namespace AssetCatalog.Asset

namespace Route

/-- The nodes that a route passes are those of its directories. -/
theorem passes_iff (keys : List Text) (route : Route) :
    Passes keys route ↔ keys <+: route.directories.map (Name.siblingKey · false) := by
  -- A proper prefix of the keys leaves out the key of the file.
  have whole : route.keys ≠ [] := route.keys_ne_nil
  unfold Passes
  rw [route.keys_eq, List.prefix_concat_iff]
  constructor
  · rintro ⟨same | passed, proper⟩
    · exact absurd same proper
    · exact passed
  · intro passed
    refine ⟨.inr passed, ?_⟩
    rintro rfl
    -- All keys together are one more than those of the directories.
    have short := passed.length_le
    simp only [List.length_append, List.length_map, List.length_singleton] at short
    omega

/-- The last key of a node that a route passes is that of the directory by which it is entered. -/
theorem Passes.directory {keys : List Text} {route : Route} (passed : Passes keys route)
    (below : keys ≠ []) : ∃ directory, route.directories[keys.length - 1]? = some directory ∧
      keys.getLast? = some (Name.siblingKey directory false) ∧
      route.names[keys.length - 1]? = some (Name.ofText directory false) := by
  -- The keys are those of the first directories, and the last one of these is the directory meant.
  have start := (passes_iff keys route).mp passed
  have positive : 0 < keys.length := List.length_pos_iff.mpr below
  have bound : keys.length - 1 < route.directories.length := by
    have short := start.length_le
    simp only [List.length_map] at short
    omega
  refine ⟨route.directories[keys.length - 1], List.getElem?_eq_getElem bound, ?_, ?_⟩
  · rw [List.getLast?_eq_getElem?, List.getElem?_eq_getElem (by omega), start.getElem (by omega)]
    simp
  · simp [names, steps, List.getElem?_append, bound]

/-- The last key of a route is that of its file, named by the last of its names. -/
theorem getLast?_keys (route : Route) :
    route.keys.getLast? = some (Name.siblingKey route.fileName !route.record.flatten) := by
  -- The keys of the directories come before the key of the file.
  simp [keys_eq]

end Route

namespace Node

/-- Whether a label tells apart the children of every node of a tree. -/
inductive SiblingsDiffer (label : Node → Text) : Node → Prop
  | intro {node : Node} (distinct : (node.children.map label).Nodup)
      (below : ∀ child ∈ node.children, SiblingsDiffer label child) : SiblingsDiffer label node

namespace SiblingsDiffer

variable {label : Node → Text}

/-- The children of a node have distinct labels. -/
theorem nodup {node : Node} (differ : SiblingsDiffer label node) :
    (node.children.map label).Nodup := by
  cases differ
  assumption

/-- What holds of a node holds of its children. -/
theorem child {node child : Node} (differ : SiblingsDiffer label node)
    (member : child ∈ node.children) : SiblingsDiffer label child := by
  cases differ with
  | intro _ below => exact below child member

/-- Whether siblings differ below a node depends on its children alone. -/
theorem of_children_eq {first second : Node} (differ : SiblingsDiffer label first)
    (same : second.children = first.children) : SiblingsDiffer label second :=
  -- Both parts of the property speak of the children.
  ⟨same ▸ differ.nodup, fun _ member => differ.child (same ▸ member)⟩

/-- Below a node without children there are no siblings to differ. -/
theorem of_no_children {node : Node} (childless : node.children = []) : SiblingsDiffer label node :=
  ⟨by simp [childless], by simp [childless]⟩

/-- The change of one sibling keeps keys distinct, if it does so below the sibling. -/
theorem changeSibling {key : Text} {fresh node : Node} {change : Node → Node}
    (kept : ∀ child, (change child).key = child.key) (named : fresh.key = key)
    (differ : SiblingsDiffer Node.key node)
    (changed : ∀ child, SiblingsDiffer Node.key child → SiblingsDiffer Node.key (change child))
    (start : SiblingsDiffer Node.key fresh) :
    SiblingsDiffer Node.key
      { node with children := Node.changeSibling key fresh change node.children } := by
  constructor
  · -- A key is added only where no sibling has it.
    show ((Node.changeSibling key fresh change node.children).map Node.key).Nodup
    rw [keys_changeSibling kept named]
    split
    · exact differ.nodup
    · rename_i new
      simpa using List.Nodup.concat new differ.nodup
  · intro child member
    rcases mem_changeSibling member with old | ⟨earlier, old, rfl⟩ | rfl
    · exact differ.child old
    · exact changed earlier (differ.child old)
    · exact changed fresh start

/-- Putting in a file keeps the keys of siblings distinct. -/
theorem insertBelow (record : Record) (fileName : Text) (directories : List Text) :
    ∀ (walked : List Text) (node : Node), SiblingsDiffer Node.key node →
      SiblingsDiffer Node.key (Node.insertBelow record fileName walked directories node) := by
  -- The induction follows the descent, which changes one sibling at each level.
  induction directories with
  | nil =>
    intro walked node differ
    refine changeSibling (fun _ => rfl) rfl differ ?_ (of_no_children rfl)
    exact fun child below => below.of_children_eq rfl
  | cons segment rest ih =>
    intro walked node differ
    refine changeSibling (by simp [enter]) rfl differ ?_ (of_no_children rfl)
    exact fun child below => ih _ _ (below.of_children_eq rfl)

end SiblingsDiffer

end Node

/-- What the routes say about the node with the given keys, where one of them reaches it. -/
def portrait (files : List Route) (keys : List Text) : Option Node :=
  -- The first route to reach the node names it, and the first to pass it gives its directory.
  (files.find? (Route.Reaches keys ·)).map fun first =>
    { key := keys.getLast?.getD []
      name := first.names[keys.length - 1]?.getD []
      sources := (files.filter (·.keys = keys)).map (·.record.source)
      directory := (files.find? (Route.Passes keys ·)).map (·.directoryPath keys.length)
      relative := if first.keys = keys then some first.path else none
      children := [] }

/-- A portrait is drawn after the first route to reach its node, which has a name for the node. -/
theorem portrait_eq_some {files : List Route} {keys : List Text} {node : Node}
    (drawn : portrait files keys = some node.bare) (below : keys ≠ []) :
    ∃ first, files.find? (Route.Reaches keys ·) = some first ∧
      first.names[keys.length - 1]? = some node.name ∧
      node.relative = if first.keys = keys then some first.path else none := by
  -- The portrait takes the name from the route at the depth of the node.
  obtain ⟨first, reached, same⟩ := Option.map_eq_some_iff.mp drawn
  have name : first.names[keys.length - 1]?.getD [] = node.name := congrArg Node.name same
  refine ⟨first, reached, ?_, (congrArg Node.relative same).symm⟩
  -- The first route has a name at every depth that the keys can have.
  have start : Route.Reaches keys first := by simpa using List.find?_some reached
  have short : keys.length ≤ first.keys.length := start.length_le
  have positive : 0 < keys.length := List.length_pos_iff.mpr below
  have named : keys.length - 1 < first.names.length := by
    rw [first.length_names]
    omega
  rw [List.getElem?_eq_getElem named, Option.getD_some] at name
  rw [List.getElem?_eq_getElem named, name]

/-- The sources in a portrait are those of the routes that end at its node. -/
theorem portrait_sources {files : List Route} {keys : List Text} {node : Node}
    (drawn : portrait files keys = some node.bare) :
    node.sources = (files.filter (·.keys = keys)).map (·.record.source) := by
  -- Bare nodes still carry their sources, so equal portraits have equal ones.
  obtain ⟨_, _, same⟩ := Option.map_eq_some_iff.mp drawn
  exact (congrArg Node.sources same).symm

/-- The directory in a portrait is that of the first route to pass its node. -/
theorem portrait_directory {files : List Route} {keys : List Text} {node : Node}
    (drawn : portrait files keys = some node.bare) :
    node.directory =
      (files.find? (Route.Passes keys ·)).map (·.directoryPath keys.length) := by
  -- Bare nodes still carry their directory, so equal portraits have equal ones.
  obtain ⟨_, _, same⟩ := Option.map_eq_some_iff.mp drawn
  exact (congrArg Node.directory same).symm

/-- One more route changes the portrait of a node as its insertion changes the node. -/
theorem portrait_append (files : List Route) (file : Route) {keys : List Text} (below : keys ≠ []) :
    portrait (files ++ [file]) keys = file.arrive [] keys (portrait files keys) := by
  -- Nodes that no earlier route reached have no sources and no directory yet.
  have untouched : files.find? (Route.Reaches keys ·) = none →
      files.filter (·.keys = keys) = [] ∧ files.find? (Route.Passes keys ·) = none := by
    intro absent
    have apart : ∀ other ∈ files, ¬ Route.Reaches keys other := by simpa using absent
    constructor
    · simpa using fun other member same =>
        apart other member ((Route.reaches_iff keys other).mpr (.inr same))
    · simpa using fun other member passed =>
        apart other member ((Route.reaches_iff keys other).mpr (.inl passed))
  -- The new route ends at the node, passes it, or has nothing to do with it.
  by_cases ends : file.keys = keys
  · -- It ends there: one more source, and no directory on its account.
    subst ends
    have reached : Route.Reaches file.keys file := List.prefix_rfl
    have notPassed : ¬ Route.Passes file.keys file := fun passed => passed.ne rfl
    cases found : files.find? (Route.Reaches file.keys ·) with
    | none =>
      obtain ⟨alone, unpassed⟩ := untouched found
      simp [portrait, Route.arrive, found, reached, notPassed, alone, unpassed,
        Route.getLast?_keys, Route.names, Route.steps, Node.addSource, Node.ofFile, Route.path]
    | some first =>
      simp [portrait, Route.arrive, found, notPassed, Node.addSource]
  · by_cases passed : Route.Passes keys file
    · have reached : Route.Reaches keys file := passed.1
      -- It passes: the node has the directory from now on, unless an earlier route has given it one.
      obtain ⟨directory, entered, last, name⟩ := passed.directory below
      cases found : files.find? (Route.Reaches keys ·) with
      | none =>
        obtain ⟨alone, unpassed⟩ := untouched found
        simp [portrait, Route.arrive, found, reached, passed, ends, alone, unpassed, last, name,
          entered, Node.enter, Node.ofDirectory, Route.directoryPath]
      | some first =>
        simp [portrait, Route.arrive, found, reached, passed, ends, Node.enter, Route.directoryPath]
    · -- The portrait asks for routes that reach the node, and this one does not.
      have apart : ¬ Route.Reaches keys file := by
        rw [Route.reaches_iff]
        exact fun either => either.elim passed ends
      simp [portrait, Route.arrive, apart, passed, ends]

/-- The nodes of a grown tree are those of the tree before, changed by one route after the other. -/
theorem bare_find?_foldl (files : List Route) (key : Text) (keys : List Text) :
    ∀ tree : Node, (Node.find? (key :: keys) (files.foldl Route.insertInto tree)).map Node.bare =
      files.foldl (fun before file => file.arrive [] (key :: keys) before)
        ((Node.find? (key :: keys) tree).map Node.bare) := by
  -- The insertion of a route changes the node at the keys as the route says, whatever the tree.
  induction files with
  | nil => intro tree; rfl
  | cons file rest ih =>
    intro tree
    rw [List.foldl_cons, List.foldl_cons, ih, Route.insertInto, Node.bare_find?_insertBelow]

/-- In the tree of records the keys of siblings are distinct. -/
theorem siblingsDiffer_key_build (className root : Text) (records : List Record) :
    Node.SiblingsDiffer Node.key (build className root records) := by
  -- The empty tree has no siblings, and each insertion keeps their keys distinct.
  rw [build_eq_foldl_routes]
  refine List.foldlRecOn _ _ (Node.SiblingsDiffer.of_no_children rfl) ?_
  exact fun tree differ file _ => differ.insertBelow _ _ _ _

/-- The root of the tree of records is the empty group with the class name, children apart. -/
theorem bare_build (className root : Text) (records : List Record) :
    (build className root records).bare = Node.empty className := by
  -- Only the children of the root change when a file is put in.
  rw [build_eq_foldl_routes]
  refine List.foldlRecOn (motive := fun tree : Node => tree.bare = Node.empty className) _ _ rfl ?_
  exact fun tree same file _ => by rw [Route.insertInto, Node.bare_insertBelow, same]

/-- Below the root, each node of the tree of records is as their routes portray it. -/
theorem bare_find?_build (className root : Text) (records : List Record) {keys : List Text}
    (below : keys ≠ []) :
    (Node.find? keys (build className root records)).map Node.bare =
      portrait (routes root records) keys := by
  obtain ⟨key, rest, rfl⟩ := List.exists_cons_of_ne_nil below
  rw [build_eq_foldl_routes, bare_find?_foldl, Node.find?_of_no_children rfl, Option.map_none]
  -- The portraits grow with the list of routes in the same steps.
  induction routes root records using List.reverseRecOn with
  | nil => rfl
  | append_singleton files file ih =>
    rw [List.foldl_append, ih, List.foldl_cons, List.foldl_nil, portrait_append files file below]

/--
The tree of records says what their routes say, and no more.

A node stands at a list of keys exactly where a route reaches it.
It holds the sources of the routes that end there, in the order of the records.
The first route to pass it gives its directory, and the first to reach it gives its name and its path.
-/
theorem build_told_by_routes (className root : Text) (records : List Record) (keys : List Text)
    (below : keys ≠ []) :
    let tree := build className root records
    let files := routes root records
    Node.SiblingsDiffer Node.key tree ∧ tree.bare = Node.empty className ∧
      ((Node.find? keys tree).isSome ↔ ∃ file ∈ files, Route.Reaches keys file) ∧
      ∀ node, Node.find? keys tree = some node →
        node.sources = (files.filter (·.keys = keys)).map (·.record.source) ∧
        (node.directory.isSome ↔ ∃ file ∈ files, Route.Passes keys file) ∧
        (∀ file, files.find? (Route.Passes keys ·) = some file →
          node.directory = some (file.directoryPath keys.length)) ∧
        ∃ first, files.find? (Route.Reaches keys ·) = some first ∧
          first.names[keys.length - 1]? = some node.name ∧
          node.relative = if first.keys = keys then some first.path else none := by
  intro tree files
  have told : (Node.find? keys tree).map Node.bare = portrait files keys :=
    bare_find?_build className root records below
  refine ⟨siblingsDiffer_key_build className root records, bare_build className root records, ?_, ?_⟩
  · -- A node is there exactly when its portrait is, and that needs a route to reach it.
    rw [← Option.isSome_map, told]
    simp [portrait]
  · -- What is to be known of the node is read off its portrait.
    intro node found
    rw [found, Option.map_some] at told
    have directory := portrait_directory told.symm
    refine ⟨portrait_sources told.symm, ?_, ?_, portrait_eq_some told.symm below⟩
    · simp [directory]
    · intro file passed
      rw [passed, Option.map_some] at directory
      exact directory

/-- A file and a later directory of one name share a node, which keeps the spelling of the file. -/
theorem build_told_by_routes_shared :
    ∃ node, Node.find? [['A']] (build ['C'] ['w']
        [⟨['/', 'w', '/', 'A'], true⟩, ⟨['/', 'w', '/', 'a', '/', 'b'], true⟩]) = some node ∧
      node.name = ['A'] ∧ node.sources = [['/', 'w', '/', 'A']] ∧
      node.directory = some ['a'] ∧ node.relative = some ['A'] := by
  -- The general law describes the node by the two routes, which are computed once.
  obtain ⟨_, _, placed, facts⟩ := build_told_by_routes ['C'] ['w']
    [⟨['/', 'w', '/', 'A'], true⟩, ⟨['/', 'w', '/', 'a', '/', 'b'], true⟩] [['A']] (by simp)
  have ways : routes ['w'] [⟨['/', 'w', '/', 'A'], true⟩, ⟨['/', 'w', '/', 'a', '/', 'b'], true⟩] =
      [⟨⟨['/', 'w', '/', 'A'], true⟩, [], ['A']⟩,
        ⟨⟨['/', 'w', '/', 'a', '/', 'b'], true⟩, [['a']], ['b']⟩] := by decide +kernel
  rw [ways] at placed facts
  obtain ⟨node, found⟩ := Option.isSome_iff_exists.mp
    (placed.mpr ⟨_, List.mem_cons_self, by decide +kernel⟩)
  obtain ⟨sources, _, directory, first, reached, name, relative⟩ := facts node found
  -- The file reaches the node first, and the directory alone passes it.
  obtain rfl : (⟨⟨['/', 'w', '/', 'A'], true⟩, [], ['A']⟩ : Route) = first :=
    Option.some.inj ((by decide +kernel : _ = _).trans reached)
  have passed := directory ⟨⟨['/', 'w', '/', 'a', '/', 'b'], true⟩, [['a']], ['b']⟩ (by decide +kernel)
  refine ⟨node, found, ?_, ?_, passed.trans (by decide), ?_⟩
  · exact Option.some.inj (name.symm.trans (by decide +kernel))
  · rw [sources]
    decide +kernel
  · rw [relative]
    decide +kernel

end AssetCatalog.Asset
