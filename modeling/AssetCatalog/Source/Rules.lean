import AssetCatalog.Source.Reading
import AssetCatalog.Source.Tree
import AssetCatalog.Unicode.Normal

/-! What the parts of the grammar need from each other, and the lists of items that many of them share. -/

namespace AssetCatalog.Source

open Reading

/-- The rules of the grammar that lie within themselves, for use inside a longer construct. -/
structure Rules where
  /-- An expression. -/
  expression : Reading Node
  /-- An expression without a condition around it. -/
  disjunction : Reading Node
  /-- An expression of arithmetic, without comparisons. -/
  operand : Reading Node
  /-- What may stand behind a negation. -/
  negation : Reading Node
  /-- What may stand behind a sign. -/
  factor : Reading Node
  /-- A pattern. -/
  pattern : Reading Node
  /-- The statements behind a colon. -/
  block : Reading (List Node)
  /-- The check of an expression in an interpolated string, given by its line and its text. -/
  field : Nat → Text → Except Fault Unit

/-- The identifier of a name, which is the same for all spellings of one normal form. -/
def identifier (spelling : Text) : Text :=
  if spelling.all fun c => c.toNat < 0x80 then spelling else Unicode.nfkc spelling

/-- The reserved words that start an expression. -/
def openingWords : List Text :=
  ["None", "True", "False", "not", "lambda", "await"].map String.toList

/-- The marks that start an expression. -/
def openingMarks : List Text :=
  ["(", "[", "\x7b", "-", "+", "~", "..."].map String.toList

/-- Whether a token starts an expression. -/
def startsExpression : Lexeme → Bool
  | .name _ | .number _ | .string _ => true
  | .keyword spelling => openingWords.contains spelling
  | .mark spelling => openingMarks.contains spelling
  | _ => false

/-- Whether a token starts an expression or an unpacked one. -/
def startsItem (lexeme : Lexeme) : Bool :=
  startsExpression lexeme || lexeme = mark "*"

/-- One item, or the tuple of several with commas between them. -/
def oneOrTuple (starts : Lexeme → Bool) (item : Reading Node) : Reading Node := do
  let first ← item
  if ← accept (mark ",") then return ⟨.tuple, first :: (← items starts item)⟩
  else return first

/-- The node of constructs that are taken together if there are several. -/
def groupIfMany : List Node → Node
  | [node] => node
  | nodes => .group nodes

namespace Rules

/-- An unpacked operand, or what another rule reads. -/
def starredOr (rules : Rules) (other : Reading Node) : Reading Node := do
  if ← accept (mark "*") then return ⟨.starred, [← rules.operand]⟩ else other

/-- Expressions and unpacked ones: one by itself, or the tuple of several. -/
def starExpressions (rules : Rules) : Reading Node :=
  oneOrTuple startsItem (rules.starredOr rules.expression)

/-- An expression that may be given a name. -/
def namedExpression (rules : Rules) : Reading Node := do
  match ← peek, ← peekNext with
  | .name spelling, .mark [':', '='] => do
    advance
    advance
    return .group [⟨.name (identifier spelling), []⟩, ← rules.expression]
  | _, _ => rules.expression

/-- A target of an assignment, or the tuple of several. -/
def targets (rules : Rules) : Reading Node := do
  let found ← oneOrTuple startsItem (rules.starredOr rules.operand)
  if found.isTarget then return found else refuse

/-- What a generator yields, behind its word. -/
def yielded (rules : Rules) : Reading Node := do
  if ← accept (word "from") then return .group [← rules.expression]
  else if startsItem (← peek) then return .group [← rules.starExpressions]
  else return .group []

/-- A yield expression or what another rule reads. -/
def yieldOr (rules : Rules) (other : Reading Node) : Reading Node := do
  if ← accept (word "yield") then rules.yielded else other

end Rules

end AssetCatalog.Source
