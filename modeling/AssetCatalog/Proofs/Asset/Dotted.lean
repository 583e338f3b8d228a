import AssetCatalog.Asset.Keys
import AssetCatalog.Proofs.Asset.Place
import AssetCatalog.Proofs.Name.Shape
import AssetCatalog.Proofs.Text.Joining

/-! Dotted keys: different ways through a tree of records have different keys. -/

namespace AssetCatalog.Asset

/-- The dotted key for the names on a way through a tree. -/
def dotted (names : List Text) : Text :=
  -- The names are joined from the top down, as the keys of the children are.
  names.foldl childKey []

/-- One more name on the way is put behind a dot. -/
theorem dotted_append (names : List Text) (name : Text) :
    dotted (names ++ [name]) = childKey (dotted names) name := by
  simp [dotted]

/-- Names that are not empty are joined by dots. -/
theorem dotted_eq_joinWith {names : List Text} (nonempty : ∀ name ∈ names, name ≠ []) :
    dotted names = Text.joinWith ['.'] names := by
  cases names with
  | nil => rfl
  | cons first rest =>
    -- Behind a key that is not empty every further name comes behind a dot.
    have further : ∀ above : Text, above ≠ [] →
        rest.foldl childKey above = above ++ rest.flatMap (['.'] ++ ·) := by
      clear nonempty
      induction rest with
      | nil => simp
      | cons name rest ih =>
        intro above filled
        rw [List.foldl_cons, ih _ (by simp [childKey, filled])]
        simp [childKey, filled]
    -- The first name stands by itself, as nothing is above it.
    rw [Text.joinWith_cons, dotted, List.foldl_cons]
    simpa [childKey] using further first (nonempty first (by simp))

/-- Ways of names without dots are got back from their dotted keys. -/
theorem dotted_injective {first second : List Text} (some : first ≠ []) (others : second ≠ [])
    (clean : ∀ name ∈ first, name ≠ [] ∧ '.' ∉ name)
    (alsoClean : ∀ name ∈ second, name ≠ [] ∧ '.' ∉ name)
    (same : dotted first = dotted second) : first = second := by
  -- A key is cut at its dots, which no name holds, into the names that it was joined of.
  rw [dotted_eq_joinWith fun name member => (clean name member).1,
    dotted_eq_joinWith fun name member => (alsoClean name member).1] at same
  rw [← Text.splitOn_joinWith some fun name member => (clean name member).2, same,
    Text.splitOn_joinWith others fun name member => (alsoClean name member).2]

namespace Place

/-- What a place claims: its dotted key for the sources that its node adds to it. -/
def claim (place : Place) : Claim :=
  (dotted (place.way Node.name), ownSources place.siblings place.node)

end Place

/-- The claims of children are those of the single children, one after the other. -/
theorem claimsOf_eq_flatMap (above : Text) (siblings : List Text) (children : List Node) :
    claimsOf above siblings children = children.flatMap fun child =>
      (childKey above child.name, ownSources siblings child) ::
        claimsBelow (childKey above child.name) child := by
  -- By the recursion over the siblings, whose names stay the same all along.
  induction children with
  | nil => rfl
  | cons child rest ih => rw [claimsOf, ih, List.flatMap_cons]

/-- The claims of a tree are those of its places, in their order. -/
theorem claimsBelow_eq_map (node : Node) :
    ∀ above : List Node, claimsBelow (dotted (above.map Node.name)) node =
      (node.placesBelow above).map Place.claim := by
  -- The key of a node is handed down and grows as the nodes above a place do.
  induction node using Node.induction with
  | step node ih =>
    intro above
    have key : ∀ child : Node, childKey (dotted (above.map Node.name)) child.name =
        dotted ((above ++ [child]).map Node.name) := by
      intro child
      rw [List.map_append, List.map_singleton, dotted_append]
    rw [Node.placesBelow_eq_flatMap, List.map_flatMap]
    -- The node is opened up for its claims to reduce to those of its children.
    cases node
    rw [claimsBelow, claimsOf_eq_flatMap]
    refine List.flatMap_congr fun child member => ?_
    rw [key, List.map_cons, ih child member]
    rfl

/-- All claims of a tree are those of all of its places. -/
theorem claimsBelow_nil_eq_map (tree : Node) : claimsBelow [] tree = tree.places.map Place.claim :=
  claimsBelow_eq_map tree []

end AssetCatalog.Asset
