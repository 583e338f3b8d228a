import AssetCatalog.HardcodedPath
import AssetCatalog.Proofs.Source.Place
import Mathlib.Data.List.Basic

/-! What a walk over a syntax tree finds, by the paths of the tree. -/

namespace AssetCatalog.HardcodedPath

open AssetCatalog.Source

variable {className : Text} {kind : Kind} {children : List Node} {node child : Node} {outer : List Node}
  {index : Nat} {path : List Nat}

/-- The string at a path, if one is there. -/
def literal? (node : Node) (path : List Nat) : Option Occurrence :=
  match node.at? path with
  | some ⟨.text value position, _⟩ => some ⟨value, position⟩
  | _ => none

/-- What a walk finds at a path of a construct, with the given constructs around it. -/
def found? (className : Text) (outer : List Node) (node : Node) (path : List Nat) : Option Occurrence :=
  (literal? node path).filter fun occurrence =>
    isSpelledOut occurrence.value && !(node.around path).any isPassedOver
      && !(node.around path ++ outer).any (exempts className)

/-- All that a walk finds in a construct, with the given constructs around it. -/
def findings (className : Text) (outer : List Node) (node : Node) : List Occurrence :=
  node.paths.filterMap (found? className outer node)

/-- The string at a path into a part is one of that part. -/
theorem literal?_cons (known : node.children[index]? = some child) :
    literal? node (index :: path) = literal? child path := by
  rw [literal?, literal?, Node.at?_cons known]

/-- In a part, a walk finds the same with one more construct around it, unless that is passed over. -/
theorem found?_cons (known : node.children[index]? = some child) :
    found? className outer node (index :: path) =
      if isPassedOver node then none else found? className (node :: outer) child path := by
  rw [found?, found?, literal?_cons known, Node.around_cons known, List.any_cons]
  cases isPassedOver node with
  | true =>
    -- A construct that is passed over around the string keeps it from being found.
    rw [if_pos rfl, Option.filter_eq_none_iff]
    intro _ _ passes
    simp at passes
  | false =>
    -- Whether the construct comes in front of the inner ones or behind them does not matter.
    have moved : (node :: child.around path ++ outer).any (exempts className) =
        (child.around path ++ node :: outer).any (exempts className) :=
      List.Perm.any_eq List.perm_middle.symm
    rw [moved, Bool.false_or]
    rfl

/-- A construct that is no string holds what a walk finds in its parts, unless it is passed over. -/
theorem findings_of_no_text (other : ∀ value position, kind ≠ .text value position) :
    findings className outer ⟨kind, children⟩ =
      if isPassedOver ⟨kind, children⟩ then []
      else children.flatMap (findings className (⟨kind, children⟩ :: outer)) := by
  -- At the construct itself nothing is found, and a path into it goes through one of its parts.
  have itself : found? className outer ⟨kind, children⟩ [] = none := by
    have none : literal? ⟨kind, children⟩ [] = none := by
      cases kind with
      | text value position => exact absurd rfl (other value position)
      | _ => rfl
    rw [found?, none]
    rfl
  have parts : ∀ child ∈ children.zipIdx, (child.1.paths.map (child.2 :: ·)).filterMap
      (found? className outer ⟨kind, children⟩) =
        if isPassedOver ⟨kind, children⟩ then []
        else findings className (⟨kind, children⟩ :: outer) child.1 := by
    intro child member
    -- A path with the index in front goes on within the part, around which the construct now stands.
    have known : children[child.2]? = some child.1 := List.mem_zipIdx_iff_getElem?.mp member
    have inside : found? className outer ⟨kind, children⟩ ∘ (child.2 :: ·) = fun path =>
        if isPassedOver ⟨kind, children⟩ then none else found? className (⟨kind, children⟩ :: outer) child.1 path :=
      funext fun path => found?_cons known
    rw [List.filterMap_map, inside]
    split
    · simp
    · rfl
  rw [findings, Node.paths_eq, List.filterMap_cons_none itself, List.filterMap_flatMap, List.flatMap_congr parts]
  split
  · simp
  · rw [← List.flatMap_map, List.zipIdx_map_fst]

/-- Of a string without parts a walk finds the string itself. -/
theorem findings_of_text (value : Text) (position : Position) :
    findings className outer ⟨.text value position, []⟩ =
      if isSpelledOut value && !outer.any (exempts className) then [⟨value, position⟩] else [] := by
  -- The only path of a string without parts is the empty one.
  have itself : found? className outer ⟨.text value position, []⟩ [] =
      if isSpelledOut value && !outer.any (exempts className) then some ⟨value, position⟩ else none := by
    simp [found?, literal?, Node.at?, Node.around, Option.filter]
  rw [findings, Node.paths_eq]
  simp only [List.zipIdx_nil, List.flatMap_nil, List.filterMap_cons, itself, List.filterMap_nil]
  split <;> simp_all

/-- A walk over constructs in order puts what it finds in front of what it found before. -/
theorem visitAll_eq (children : List Node) (each : ∀ child ∈ children, ∀ walk, visit className walk child =
      { walk with found := (findings className walk.ancestors child).reverse ++ walk.found }) :
    ∀ walk, visitAll className walk children =
      { walk with found := (children.flatMap (findings className walk.ancestors)).reverse ++ walk.found } := by
  -- Each construct comes back with the constructs around it as they were, so the next one starts alike.
  induction children with
  | nil => exact fun walk => by rw [visitAll]; rfl
  | cons child rest ih =>
    intro walk
    obtain ⟨first, others⟩ := List.forall_mem_cons.mp each
    rw [visitAll, first, ih others]
    simp

/-- A walk goes over the parts of a construct that is no string, unless it is passed over. -/
theorem visit_of_no_text (other : ∀ value position, kind ≠ .text value position) (walk : Walk) :
    visit className walk ⟨kind, children⟩ =
      if isPassedOver ⟨kind, children⟩ then walk
      else (visitAll className (walk.enter ⟨kind, children⟩) children).leave := by
  -- The first equation of the walk is for strings only.
  rw [visit]
  exact other

/-- A walk over a well formed construct finds what is there, and comes back to the constructs around it. -/
theorem visit_eq (node : Node) (wellFormed : node.WellFormed) : ∀ walk, visit className walk node =
    { walk with found := (findings className walk.ancestors node).reverse ++ walk.found } := by
  induction node using Node.induction with
  | step kind children ih =>
    intro walk
    -- A string is noted, and anything else is walked through or passed over.
    by_cases text : ∃ value position, kind = .text value position
    · obtain ⟨value, position, rfl⟩ := text
      obtain rfl : children = [] := by simpa using wellFormed.fits
      rw [visit, Walk.note, findings_of_text]
      split <;> simp
    · have other (value : Text) (position : Position) : kind ≠ .text value position :=
        fun same => text ⟨value, position, same⟩
      -- The parts are walked through one after the other, each as the induction says.
      have inside := visitAll_eq children fun child member => ih child member (wellFormed.part member)
      rw [visit_of_no_text other, findings_of_no_text other, inside]
      split
      · simp
      · rfl

end AssetCatalog.HardcodedPath
