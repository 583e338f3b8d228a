import AssetCatalog.Asset.Tree
import AssetCatalog.Diagnostic

/-! The dotted keys that the nodes of a tree claim, and the keys that are claimed more than once. -/

namespace AssetCatalog.Asset

/-- A key with the sources that claim it, in their order. -/
abbrev Claim := Text × List Text

/-- Adds sources to a key, or the key behind all others where it is new. -/
def addClaim (key : Text) (sources : List Text) : List Claim → List Claim
  | [] => [(key, sources)]
  | claim :: rest =>
    if claim.1 = key then (key, claim.2 ++ sources) :: rest else claim :: addClaim key sources rest

/-- The sources that a node adds to its key, given the names of it and its siblings. -/
def ownSources (siblings : List Text) (node : Node) : List Text :=
  -- A directory is listed where a file or a sibling takes its name too.
  match node.directory with
  | none => node.sources
  | some directory =>
    if !node.sources.isEmpty || 1 < siblings.count node.name then
      (directory ++ ['/']) :: node.sources
    else node.sources

/-- The dotted key of a child below a key, which is empty for the root. -/
def childKey (above name : Text) : Text :=
  if above.isEmpty then name else above ++ '.' :: name

mutual

/-- The claims of all nodes below a node, from the top down and in the order of the children. -/
def claimsBelow (above : Text) : Node → List Claim
  | ⟨_, _, _, _, _, children⟩ => claimsOf above (children.map Node.name) children

/-- The claims of some children of a node and of all nodes below them. -/
def claimsOf (above : Text) (siblings : List Text) : List Node → List Claim
  | [] => []
  | child :: rest =>
    let key := childKey above child.name
    (key, ownSources siblings child) :: claimsBelow key child ++ claimsOf above siblings rest

end

/-- Every claimed key with all of its sources, in the order of the first claims. -/
def keys (tree : Node) : List Claim :=
  -- A node without sources of its own claims nothing.
  (claimsBelow [] tree).foldl (fun claims claim =>
    if claim.2.isEmpty then claims else addClaim claim.1 claim.2 claims) []

/-- The keys that are claimed by two sources or more. -/
def collisions (tree : Node) : List Claim :=
  (keys tree).filter fun claim => 1 < claim.2.length

/-- One error for each source of each key. -/
def collisionErrors (claims : List Claim) : List Diagnostic :=
  claims.flatMap fun claim => claim.2.map (Diagnostic.duplicateKey claim.1)

end AssetCatalog.Asset
