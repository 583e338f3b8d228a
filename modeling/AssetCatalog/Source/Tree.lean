import AssetCatalog.Source.Token

/-! Syntax trees of sources: every construct with its parts, in the order of the language's fields. -/

namespace AssetCatalog.Source

/-- What a construct is, as far as it matters for the texts within it. -/
inductive Kind where
  /-- A string with its value and the place at which it starts. -/
  | text (value : Text) (position : Position)
  /-- A name. -/
  | name (identifier : Text)
  /-- An attribute of its only part. -/
  | attribute (identifier : Text)
  /-- A call: what is called, then the arguments. -/
  | call
  /-- A subscript: the value, then the index. -/
  | subscript
  /-- An assignment with an annotation: the target, the annotation, then the value if there is one. -/
  | annotated
  /-- A statement that is an expression. -/
  | expression
  /-- An assertion. -/
  | assertion
  /-- An interpolated string. -/
  | interpolated
  /-- A tuple. -/
  | tuple
  /-- A list display. -/
  | list
  /-- An unpacked value. -/
  | starred
  /-- Any other construct. -/
  | other
deriving DecidableEq, Repr

/-- A construct with its parts. -/
structure Node where
  /-- What the construct is. -/
  kind : Kind
  /-- Its parts. -/
  children : List Node := []
deriving Repr

namespace Node

/-- A construct that only holds its parts together. -/
def group (children : List Node) : Node :=
  ⟨.other, children⟩

/-- Whether a construct is a name, an attribute or a subscript. -/
def isSingleTarget (node : Node) : Bool :=
  match node.kind with
  | .name _ | .attribute _ | .subscript => true
  | _ => false

mutual

/-- Whether a construct can be assigned to; an unpacked part can where several are. -/
def isTarget : Node → Bool
  | ⟨.name _, _⟩ | ⟨.attribute _, _⟩ | ⟨.subscript, _⟩ => true
  | ⟨.tuple, children⟩ | ⟨.list, children⟩ => areTargets children
  | ⟨.starred, children⟩ => areUnpacked children
  | _ => false

/-- Whether all of some constructs can be assigned to. -/
def areTargets : List Node → Bool
  | [] => true
  | child :: children => isTarget child && areTargets children

/-- Whether the part of an unpacked construct can be assigned to. -/
def areUnpacked : List Node → Bool
  | [] => false
  | child :: _ => child.kind != .starred && isTarget child

end

mutual

/-- Whether a construct can be deleted. -/
def isDeletable : Node → Bool
  | ⟨.name _, _⟩ | ⟨.attribute _, _⟩ | ⟨.subscript, _⟩ => true
  | ⟨.tuple, children⟩ | ⟨.list, children⟩ => areDeletable children
  | _ => false

/-- Whether all of some constructs can be deleted. -/
def areDeletable : List Node → Bool
  | [] => true
  | child :: children => isDeletable child && areDeletable children

end

end Node

end AssetCatalog.Source
