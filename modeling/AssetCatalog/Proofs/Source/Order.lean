import AssetCatalog.Proofs.Source.Extent.Statement
import AssetCatalog.Proofs.Source.Place
import AssetCatalog.Proofs.Source.Scanner

/-! The order of the parts of constructs in a source, as their strings show it. -/

namespace AssetCatalog.Source

namespace Node

/-- A string within a construct starts at a place. -/
def Holds (node : Node) (position : Position) : Prop :=
  ∃ path value, node.at? path = some ⟨.text value position, []⟩

/-- All strings of a construct stand in front of those of another one. -/
def Ahead (first second : Node) : Prop :=
  ∀ front back, first.Holds front → second.Holds back → front.rank < back.rank

namespace StringsAt

variable {node inner : Node} {position : Position} {places : List Position} {nodes : List Node}
  {blocks : List (List Position)} {path : List Nat}

/-- Each of some constructs has its strings at places of its own among theirs. -/
theorem exists_of_mem (each : List.Forall₂ StringsAt nodes blocks) (member : node ∈ nodes) :
    ∃ block ∈ blocks, node.StringsAt block := by
  -- The blocks of places come in the order of the constructs.
  induction each with
  | nil => cases member
  | cons here _ ih =>
    rcases List.mem_cons.mp member with rfl | later
    · exact ⟨_, List.mem_cons_self, here⟩
    · obtain ⟨block, known, strings⟩ := ih later
      exact ⟨block, List.mem_cons_of_mem _ known, strings⟩

/-- A construct within another one has its strings at some of the places. -/
theorem exists_of_at? : ∀ {node : Node} {places : List Position}, node.StringsAt places →
    node.at? path = some inner → ∃ inside, inner.StringsAt inside ∧ inside.Sublist places := by
  -- A step leads into a part, which has one of the blocks that the places are made of.
  induction path with
  | nil =>
    intro node places strings found
    cases found
    exact ⟨places, strings, .refl places⟩
  | cons index path ih =>
    intro node places strings found
    obtain ⟨child, known, below⟩ := exists_part_of_at? found
    cases strings with
    | text => cases known
    | parts _ same _ each =>
      -- The parts have blocks in some order, and one of these is that of the part.
      obtain ⟨block, member, within⟩ := exists_of_mem each (same.mem_iff.mpr (List.mem_of_getElem? known))
      obtain ⟨inside, strings, part⟩ := ih within below
      exact ⟨inside, strings, part.trans (List.sublist_flatten_of_mem member)⟩

/-- A string within a construct starts at one of the places. -/
theorem mem_of_holds (strings : node.StringsAt places) (holds : node.Holds position) : position ∈ places := by
  -- A string is at the one place that it starts at.
  obtain ⟨path, value, found⟩ := holds
  obtain ⟨inside, known, within⟩ := strings.exists_of_at? found
  cases known with
  | text => exact within.subset (List.mem_singleton_self position)
  | parts other => cases other

/-- Constructs with their strings one behind the other stand one behind the other. -/
theorem pairwise_ahead (each : List.Forall₂ StringsAt nodes blocks)
    (sorted : blocks.flatten.Pairwise fun first second => first.rank < second.rank) : nodes.Pairwise Ahead := by
  -- The strings of the first construct stand in front of all others, since they are all in order.
  induction each with
  | nil => exact .nil
  | cons here rest ih =>
    rw [List.flatten_cons, List.pairwise_append] at sorted
    obtain ⟨_, further, apart⟩ := sorted
    refine List.pairwise_cons.mpr ⟨fun other member front back first second => ?_, ih further⟩
    obtain ⟨block, known, strings⟩ := exists_of_mem rest member
    exact apart front (here.mem_of_holds first) back
      (List.mem_flatten.mpr ⟨block, known, strings.mem_of_holds second⟩)

/-- The parts of a construct stand one behind the other, in one order or another if the construct is free in that. -/
theorem pairwise_children (strings : node.StringsAt places)
    (sorted : places.Pairwise fun first second => first.rank < second.rank) :
    node.children.Pairwise fun first second =>
      first.Ahead second ∨ node.kind.isFree = true ∧ second.Ahead first := by
  cases strings with
  | text => exact .nil
  | @parts kind children ordered _ _ same kept each =>
    have ahead := pairwise_ahead each sorted
    cases free : kind.isFree with
    | false => exact kept free ▸ ahead.imp fun known => .inl known
    | true =>
      -- Whichever of two parts comes first in the tree, one of them stands in front of the other.
      have either : children.Pairwise fun first second => first.Ahead second ∨ second.Ahead first :=
        (same.pairwise_iff fun known => known.symm).mp (ahead.imp .inl)
      exact either.imp fun known => known.imp id fun other => ⟨rfl, other⟩

end StringsAt

end Node

/-- In the tree of a source the parts of each construct stand one behind the other. Their order is that of the tree
for the statements of the source, and for all constructs that are not free in it. -/
theorem pairwise_children_of_parse {source : Text} {tree node : Node} {path : List Nat}
    (parsed : parse source = .ok tree) (found : tree.at? path = some node) :
    node.children.Pairwise fun first second =>
      first.Ahead second ∨ (path ≠ [] ∧ node.kind.isFree = true) ∧ second.Ahead first := by
  obtain ⟨tokens, rest, statements, scanned, ⟨taken, places, cut, each, inside⟩, rfl⟩ := exists_lies_of_parse parsed
  -- What the scanner has put in order stays so among the strings that the parser keeps.
  have sorted : places.flatten.Pairwise fun first second => first.rank < second.rank := by
    have all := inOrder_of_scan scanned
    rw [InOrder, cut, stringPlaces, List.filterMap_append, List.pairwise_append] at all
    exact all.1.sublist inside
  cases path with
  | nil =>
    -- The file holds its statements as they are read.
    cases found
    exact (Node.StringsAt.pairwise_ahead each sorted).imp .inl
  | cons index path =>
    have whole : (Node.group statements).StringsAt places.flatten := .parts rfl (.refl _) (fun _ => rfl) each
    obtain ⟨within, strings, part⟩ := whole.exists_of_at? found
    refine (strings.pairwise_children (sorted.sublist part)).imp fun known => known.imp id fun turned => ?_
    exact ⟨⟨List.cons_ne_nil _ _, turned.1⟩, turned.2⟩

end AssetCatalog.Source
