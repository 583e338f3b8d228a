import AssetCatalog.AssetPath
import AssetCatalog.Diagnostic
import AssetCatalog.Source.Parser

/-! Asset paths that a source spells out: one warning for each text that should name a constant instead. -/

namespace AssetCatalog.HardcodedPath

open AssetCatalog.Source

/-- The parts of the name of classes that hold assets. -/
def groupNames : List Text :=
  ["StaticAssets", "Assets", "WebAssets"]

/-- The calls that compare two values, where a path may be spelled out. -/
def comparisons : List Text :=
  ["assertEqual", "assertEquals", "assert_equal", "assert_equals", "Equals", "equals", "IsEqualTo",
    "is_equal_to"]

mutual

/-- The names of a name with attributes behind it; nothing for any other construct. -/
def dottedName : Node → List Text
  | ⟨.name identifier, _⟩ => [identifier]
  | ⟨.attribute identifier, children⟩ =>
    match dottedNameOfFirst children with
    | [] => []
    | names => names ++ [identifier]
  | _ => []

/-- The names of the first of some constructs. -/
def dottedNameOfFirst : List Node → List Text
  | [] => []
  | child :: _ => dottedName child

end

/-- The last name of what is called, whatever is in front of it. -/
def calledName? (callee : Node) : Option Text :=
  match callee.kind with
  | .name identifier | .attribute identifier => some identifier
  | _ => none

/-- Whether a name with attributes starts with the name of a class that holds assets. -/
def isGroupRooted (className : Text) (names : List Text) : Bool :=
  match names with
  | [] => false
  | root :: _ => !root.isEmpty && (className :: groupNames).any fun name => Text.occursIn name root

/-- Whether paths may be spelled out within a construct. -/
def exempts (className : Text) (ancestor : Node) : Bool :=
  -- A comparison is known by its last name, and the use of a group by the first one.
  match ancestor.kind, ancestor.children with
  | .call, callee :: _ =>
    (calledName? callee).any comparisons.contains || isGroupRooted className (dottedName callee)
  | .attribute _, value :: _ | .subscript, value :: _ => isGroupRooted className (dottedName value)
  | _, _ => false

/-- Whether an annotation makes a constant, with or without a type. -/
def isConstantAnnotation (hint : Node) : Bool :=
  let named := match hint.kind, hint.children with
    | .subscript, value :: _ => value
    | _, _ => hint
  (dottedName named).getLast? = some "Final".toList

/-- Whether a construct is a string. -/
def isText (node : Node) : Bool :=
  match node.kind with
  | .text _ _ => true
  | _ => false

/-- Whether nothing within a construct is looked at. -/
def isPassedOver (node : Node) : Bool :=
  match node.kind, node.children with
  | .interpolated, _ | .assertion, _ => true
  | .expression, [value] => isText value
  | .annotated, _ :: hint :: _ => isConstantAnnotation hint
  | _, _ => false

/-- A string that spells out the path of an asset. -/
structure Occurrence where
  /-- The string. -/
  value : Text
  /-- Where it starts. -/
  position : Position
deriving DecidableEq, Repr

/-- What a walk over a tree has met. -/
structure Walk where
  /-- The constructs around the one at hand, the innermost first. -/
  ancestors : List Node := []
  /-- The strings found, the last one first. -/
  found : List Occurrence := []

/-- Whether a string spells out a path and has no place for a value in it. -/
def isSpelledOut (value : Text) : Bool :=
  AssetPath.isLike value && !value.contains '\x7b' && !value.contains '$'

/-- Notes a string that spells out a path, unless a construct around it allows that. -/
def Walk.note (className value : Text) (position : Position) (walk : Walk) : Walk :=
  if isSpelledOut value && !walk.ancestors.any (exempts className) then
    { walk with found := ⟨value, position⟩ :: walk.found }
  else walk

/-- Enters a construct. -/
def Walk.enter (node : Node) (walk : Walk) : Walk :=
  { walk with ancestors := node :: walk.ancestors }

/-- Leaves the innermost construct. -/
def Walk.leave (walk : Walk) : Walk :=
  { walk with ancestors := walk.ancestors.tail }

mutual

/-- Walks over a construct with all that is in it. -/
def visit (className : Text) (walk : Walk) : Node → Walk
  | ⟨.text value position, _⟩ => walk.note className value position
  | ⟨kind, children⟩ =>
    if isPassedOver ⟨kind, children⟩ then walk
    else (visitAll className (walk.enter ⟨kind, children⟩) children).leave

/-- Walks over constructs in order. -/
def visitAll (className : Text) (walk : Walk) : List Node → Walk
  | [] => walk
  | node :: nodes => visitAll className (visit className walk node) nodes

end

mutual

/-- The calls that a walk over a construct has open at once where it is deepest. -/
def openCalls : Node → Nat
  | ⟨kind, children⟩ =>
    -- A construct takes three calls, and one more where the walk has a step of its own for its kind.
    if isPassedOver ⟨kind, children⟩ then 2
    else (if kind = .expression ∨ kind = .annotated then 4 else 3) + openCallsAmong children

/-- The greatest number of calls that the walk over one of some constructs has open at once. -/
def openCallsAmong : List Node → Nat
  | [] => 0
  | node :: nodes => max (openCalls node) (openCallsAmong nodes)

end

/-- What a machine with room for so many open calls says of a source whose tree takes more. -/
def overflowAt (room : Nat) (source : Text) : Option Text :=
  match parse source with
  | .ok tree => if room < openCalls tree then some "maximum recursion depth exceeded".toList else none
  | .error _ => none

/-- The strings of a tree that spell out a path, in the order of the tree. -/
def occurrences (className : Text) (tree : Node) : List Occurrence :=
  (visit className {} tree).found.reverse

/-- Whether the first line of a source says that it was generated. -/
def isGenerated (source : Text) : Bool :=
  Text.occursIn "auto-generated" (source.takeWhile (· != '\n'))

/-- The warning for a string. -/
def warning (fileName className : Text) (occurrence : Occurrence) : Diagnostic :=
  .hardcodedPath occurrence.value className (some fileName) (some occurrence.position.line)
    (some (occurrence.position.column + 1))

/-- The warnings for a source, or the fault that keeps it from being read. -/
def inspect (fileName className source : Text) : Except Fault (List Diagnostic) :=
  if isGenerated source then .ok []
  else do
    let tree ← parse source
    return (occurrences className tree).map (warning fileName className)

/-- The warnings for a source; one that cannot be read has none. -/
def check (fileName className source : Text) : List Diagnostic :=
  match inspect fileName className source with
  | .ok warnings => warnings
  | .error _ => []

end AssetCatalog.HardcodedPath
