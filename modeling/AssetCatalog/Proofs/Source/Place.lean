import AssetCatalog.Source.Tree
import Mathlib.Data.List.Pairwise

/-! The places of a syntax tree, by the paths that lead to them, and trees whose constructs have their parts. -/

namespace AssetCatalog.Source.Node

/-- What holds of a construct whenever it holds of its parts holds of every construct. -/
theorem induction {motive : Node → Prop}
    (step : ∀ kind children, (∀ child ∈ children, motive child) → motive ⟨kind, children⟩) (node : Node) :
    motive node := by
  -- A part is smaller than its construct, because the construct holds the list of its parts.
  obtain ⟨kind, children⟩ := node
  exact step kind children fun child member => induction step child
termination_by sizeOf node
decreasing_by
  have smaller := List.sizeOf_lt_of_mem member
  simp only [Node.mk.sizeOf_spec]
  omega

/-- The construct at a path, which tells from the top down which part to go into. -/
def at? (node : Node) : List Nat → Option Node
  | [] => some node
  | index :: path =>
    match node.children[index]? with
    | none => none
    | some child => child.at? path

/-- The constructs around the one at a path, the outermost first. -/
def around (node : Node) : List Nat → List Node
  | [] => []
  | index :: path =>
    node :: match node.children[index]? with
      | none => []
      | some child => child.around path

section Parts

variable {node child : Node} {index : Nat} {path : List Nat}

/-- A path that starts with the index of a part goes on in that part. -/
theorem at?_cons (known : node.children[index]? = some child) : node.at? (index :: path) = child.at? path := by
  rw [at?, known]

/-- A path that starts with no index of a part leads nowhere. -/
theorem at?_cons_of_none (none : node.children[index]? = none) : node.at? (index :: path) = .none := by
  rw [at?, none]

/-- Around a path into a part stand the construct and those of the part. -/
theorem around_cons (known : node.children[index]? = some child) :
    node.around (index :: path) = node :: child.around path := by
  rw [around, known]

/-- A path of several steps that leads somewhere leads into a part. -/
theorem exists_part_of_at? {inner : Node} (found : node.at? (index :: path) = some inner) :
    ∃ child, node.children[index]? = some child ∧ child.at? path = some inner := by
  -- Without a part at the first step, the path leads nowhere.
  cases known : node.children[index]? with
  | none =>
    rw [at?_cons_of_none known] at found
    cases found
  | some child => exact ⟨child, rfl, at?_cons known ▸ found⟩

/-- A path leads on from the construct that its front leads to. -/
theorem at?_append (front back : List Nat) : ∀ node : Node,
    node.at? (front ++ back) = (node.at? front).bind fun inner => inner.at? back := by
  -- Where the first step leads nowhere, the whole path does not either.
  induction front with
  | nil => exact fun _ => rfl
  | cons index front ih =>
    intro node
    rw [List.cons_append]
    cases known : node.children[index]? with
    | none => rw [at?_cons_of_none known, at?_cons_of_none known, Option.bind_none]
    | some child => rw [at?_cons known, at?_cons known, ih]

end Parts

mutual

/-- The paths to all constructs of a tree: first to the construct itself, then to its parts in order. -/
def paths : Node → List (List Nat)
  | ⟨_, children⟩ => [] :: pathsFrom 0 children

/-- The paths to constructs side by side, the first of them with the given index. -/
def pathsFrom (index : Nat) : List Node → List (List Nat)
  | [] => []
  | child :: rest => (paths child).map (index :: ·) ++ pathsFrom (index + 1) rest

end

/-- The paths to constructs side by side go through them one after the other. -/
theorem pathsFrom_eq_flatMap (children : List Node) : ∀ index,
    pathsFrom index children =
      (children.zipIdx index).flatMap fun child => (paths child.1).map (child.2 :: ·) := by
  -- Induction on the constructs, with the number of the next one growing.
  induction children with
  | nil => exact fun _ => by rw [pathsFrom]; rfl
  | cons child rest ih =>
    intro index
    rw [pathsFrom, ih, List.zipIdx_cons, List.flatMap_cons]

/-- The paths of a construct go to itself, and through its parts one after the other. -/
theorem paths_eq (kind : Kind) (children : List Node) :
    paths ⟨kind, children⟩ = [] :: children.zipIdx.flatMap fun child => (paths child.1).map (child.2 :: ·) := by
  rw [paths, pathsFrom_eq_flatMap]

/-- The paths of a tree lead to its constructs, and to nothing else. -/
theorem mem_paths_iff {node : Node} : ∀ {path : List Nat}, path ∈ node.paths ↔ (node.at? path).isSome := by
  induction node using induction with
  | step kind children ih =>
    intro path
    rw [paths_eq]
    -- The empty path leads to the construct itself, and any other through a part with the index in front.
    cases path with
    | nil => simp [at?]
    | cons index path =>
      rw [at?, List.mem_cons, List.mem_flatMap]
      constructor
      · -- A path through a part goes on to a construct within the part.
        rintro (same | ⟨⟨child, place⟩, member, through⟩)
        · cases same
        · obtain ⟨below, known, same⟩ := List.mem_map.mp through
          cases same
          rw [List.mem_zipIdx_iff_getElem?] at member
          simpa [member] using (ih child (List.mem_of_getElem? member)).mp known
      · intro found
        cases member : children[index]? with
        | none => simp [member] at found
        | some child =>
          simp only [member] at found
          refine .inr ⟨(child, index), List.mem_zipIdx_iff_getElem?.mpr member, ?_⟩
          exact List.mem_map.mpr ⟨path, (ih child (List.mem_of_getElem? member)).mpr found, rfl⟩

/-- The paths of a tree come in lexicographic order, each of them once. -/
theorem pairwise_paths (node : Node) : node.paths.Pairwise (· < ·) := by
  induction node using induction with
  | step kind children ih =>
    rw [paths_eq, List.pairwise_cons]
    constructor
    · intro path member
      obtain ⟨child, _, through⟩ := List.mem_flatMap.mp member
      obtain ⟨below, _, rfl⟩ := List.mem_map.mp through
      exact List.nil_lt_cons _ _
    · rw [List.pairwise_flatMap]
      constructor
      · -- Within one part the paths have the index in front.
        intro child member
        refine List.Pairwise.map _ (fun _ _ less => List.cons_lt_cons_iff.mpr (.inr ⟨rfl, less⟩)) ?_
        exact ih child.1 (List.fst_mem_of_mem_zipIdx member)
      · -- The indices of two parts grow with their order.
        have ordered : children.zipIdx.Pairwise fun first second => first.2 < second.2 := by
          refine List.pairwise_map.mp ?_
          rw [List.zipIdx_map_snd]
          exact List.pairwise_lt_range'
        refine ordered.imp fun {first second} less path member other also => ?_
        obtain ⟨_, _, rfl⟩ := List.mem_map.mp member
        obtain ⟨_, _, rfl⟩ := List.mem_map.mp also
        exact List.cons_lt_cons_iff.mpr (.inl less)

section Shape

/-- Whether a construct has as many parts as belong to its kind. -/
@[simp] def fits (node : Node) : Bool :=
  match node.kind with
  | .text _ _ | .name _ => node.children.isEmpty
  | .attribute _ | .expression => node.children.length == 1
  | .subscript => node.children.length == 2
  | .call => 1 ≤ node.children.length
  | .annotated => 2 ≤ node.children.length
  | .assertion | .interpolated | .tuple | .list | .starred | .other => true

/-- Every construct of a tree has as many parts as belong to its kind. -/
inductive WellFormed : Node → Prop where
  /-- A tree is well formed if it fits and its parts are well formed. -/
  | intro {node : Node} (fits : node.fits = true) (parts : ∀ child ∈ node.children, WellFormed child) :
    WellFormed node

variable {node ancestor : Node} {path : List Nat}

/-- A well formed tree fits. -/
theorem WellFormed.fits (wellFormed : node.WellFormed) : node.fits = true := by
  cases wellFormed
  assumption

/-- The parts of a well formed tree are well formed. -/
theorem WellFormed.part (wellFormed : node.WellFormed) {child : Node} (member : child ∈ node.children) :
    child.WellFormed := by
  cases wellFormed with
  | intro _ parts => exact parts child member

/-- A tree is well formed exactly if it fits and its parts are well formed. -/
@[simp] theorem wellFormed_mk {kind : Kind} {children : List Node} : WellFormed ⟨kind, children⟩ ↔
    fits ⟨kind, children⟩ = true ∧ ∀ child ∈ children, child.WellFormed :=
  ⟨fun wellFormed => ⟨wellFormed.fits, fun _ member => wellFormed.part member⟩, fun both => .intro both.1 both.2⟩

/-- Well formed constructs can be held together. -/
@[simp] theorem wellFormed_group {children : List Node} :
    (group children).WellFormed ↔ ∀ child ∈ children, child.WellFormed := by
  simp [group]

/-- All constructs of a well formed tree are well formed. -/
theorem WellFormed.at? {path : List Nat} : ∀ {node inner : Node}, node.WellFormed → node.at? path = some inner →
    inner.WellFormed := by
  -- Each step leads to a part, and the parts of a well formed construct are well formed.
  induction path with
  | nil =>
    intro node inner wellFormed found
    cases found
    exact wellFormed
  | cons index path ih =>
    intro node inner wellFormed found
    obtain ⟨child, known, below⟩ := exists_part_of_at? found
    exact ih (wellFormed.part (List.mem_of_getElem? known)) below

/-- A construct around a path that leads somewhere stands on the way, and the rest of the path leads on from it. -/
theorem exists_of_mem_around {inner : Node} : ∀ {node : Node}, node.at? path = some inner →
    ancestor ∈ node.around path →
      ∃ front index back, path = front ++ index :: back ∧ node.at? front = some ancestor ∧
        ancestor.at? (index :: back) = some inner := by
  -- The first step has the whole tree around it, and the others are around the rest of the path.
  induction path with
  | nil =>
    intro node _ member
    cases member
  | cons index path ih =>
    intro node found member
    obtain ⟨child, known, below⟩ := exists_part_of_at? found
    rw [around_cons known] at member
    rcases List.mem_cons.mp member with rfl | deeper
    · -- The whole tree stands in front of the first step.
      exact ⟨[], index, path, rfl, rfl, found⟩
    · obtain ⟨front, next, back, rfl, led, rest⟩ := ih below deeper
      exact ⟨index :: front, next, back, rfl, by rw [at?_cons known, led], rest⟩

/-- The construct right around a path is the last one on the way. -/
theorem getLast?_around (last : Nat) : ∀ {node : Node} {path : List Nat} {parent : Node},
    node.at? path = some parent → (node.around (path ++ [last])).getLast? = some parent := by
  intro node path
  -- The step at the end leads away from the construct that the path leads to.
  induction path generalizing node with
  | nil =>
    intro parent found
    obtain rfl : node = parent := Option.some.inj found
    -- A step by itself has just the tree around it, whether or not it leads to a part.
    rw [List.nil_append, around]
    cases node.children[last]? <;> rfl
  | cons first path ih =>
    intro parent found
    obtain ⟨child, known, below⟩ := exists_part_of_at? found
    rw [List.cons_append, around_cons known, List.getLast?_cons, ih below]
    rfl

/-- One step leads from the construct right around a path to the one that the path leads to. -/
theorem exists_of_mem_getLast?_around {inner parent : Node} (found : node.at? path = some inner)
    (last : parent ∈ (node.around path).getLast?) : ∃ front index, path = front ++ [index] ∧
      node.at? front = some parent ∧ parent.at? [index] = some inner := by
  -- Only a path with a step has a construct around it.
  rcases path.eq_nil_or_concat with rfl | ⟨front, index, rfl⟩
  · cases last
  · rw [List.concat_eq_append] at found last ⊢
    rw [at?_append] at found
    obtain ⟨outer, led, step⟩ := Option.bind_eq_some_iff.mp found
    rw [getLast?_around index led] at last
    cases last
    exact ⟨front, index, rfl, led, step⟩

end Shape

end AssetCatalog.Source.Node
