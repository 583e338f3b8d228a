import AssetCatalog.Source.Rules

/-! The parameters of functions. -/

namespace AssetCatalog.Source

open Reading

/-- The parameters of a function, with the expressions in them. -/
structure Parameters where
  /-- The parameters that can be given by position. -/
  positional : List Node := []
  /-- The defaults of the last of them. -/
  defaults : List Node := []
  /-- Whether a slash was met. -/
  slashed : Bool := false
  /-- Whether a star was met. -/
  starred : Bool := false
  /-- Whether the star still needs a parameter behind it. -/
  pending : Bool := false
  /-- The parameter that takes the further arguments. -/
  variadic : List Node := []
  /-- The parameters that can be given by name only. -/
  named : List Node := []
  /-- The defaults of some of them. -/
  namedDefaults : List Node := []
  /-- The parameter that takes the further named arguments. -/
  remaining : List Node := []

namespace Parameters

/-- The parameters as one construct. -/
def node (found : Parameters) : Node :=
  .group (found.positional ++ found.variadic ++ found.named ++ found.namedDefaults ++ found.remaining
    ++ found.defaults)

/-- The name of a parameter with its annotation, if annotations are allowed. -/
def parameter (hint : Option (Reading Node)) : Reading Node := do
  let _ ← name
  match hint with
  | none => return .group []
  | some hint => if ← accept (mark ":") then return .group [← hint] else return .group []

/-- A default, if there is one. -/
def default? (rules : Rules) : Reading (List Node) := do
  if ← accept (mark "=") then return [← rules.expression] else return []

/-- Adds a parameter with or without a default to those before it. -/
def add (found : Parameters) (node : Node) (default : List Node) : Reading Parameters := do
  -- Behind a star defaults are free; in front of it a default asks for one in all that follow.
  if found.starred then
    return { found with
      named := found.named ++ [node], namedDefaults := found.namedDefaults ++ default, pending := false }
  else if default.isEmpty && !found.defaults.isEmpty then refuse
  else return { found with positional := found.positional ++ [node], defaults := found.defaults ++ default }

/-- The next item of a list of parameters, and whether it has to be the last one. -/
def item (rules : Rules) (annotated : Bool) (found : Parameters) : Reading (Parameters × Bool) := do
  let hint (rule : Reading Node) : Option (Reading Node) := if annotated then some rule else none
  if ← accept (mark "/") then
    -- A slash comes once, behind some parameter and in front of the star.
    if found.slashed || found.starred || found.positional.isEmpty then refuse
    return ({ found with slashed := true }, false)
  else if ← accept (mark "**") then
    if found.pending then refuse
    return ({ found with remaining := [← parameter (hint rules.expression)] }, true)
  else if ← accept (mark "*") then
    if found.starred then refuse
    -- A star by itself has to be followed by a parameter with a name.
    if (← peek) = mark "," then return ({ found with starred := true, pending := true }, false)
    else
      let node ← parameter (hint (rules.starredOr rules.expression))
      return ({ found with starred := true, variadic := [node] }, false)
  else
    let node ← parameter (hint rules.expression)
    return (← found.add node (← default? rules), false)

/-- The parameters up to the token that closes them, behind those before. -/
def itemsFrom (rules : Rules) (annotated : Bool) (closing : Lexeme) (found : Parameters) :
    Nat → Reading Parameters
  | 0 => refuse
  | fuel + 1 => do
    if (← peek) = closing then
      if found.pending then refuse
      return found
    else
      let (found, last) ← item rules annotated found
      if ← accept (mark ",") then
        if last && (← peek) ≠ closing then refuse
        itemsFrom rules annotated closing found fuel
      else if (← peek) = closing then
        if found.pending then refuse
        return found
      else refuse

/-- The parameters up to the token that closes them, which is left. -/
def read (rules : Rules) (annotated : Bool) (closing : Lexeme) : Reading Node := do
  return (← itemsFrom rules annotated closing {} (← get).length.succ).node

end Parameters

end AssetCatalog.Source
