import AssetCatalog.Source.Scanner
import AssetCatalog.Source.Statement

/-! The whole grammar, and the syntax tree of a source. -/

namespace AssetCatalog.Source

/-- The fault for a refusal. -/
def Refusal.toFault : Refusal → Fault
  | .fault found => found
  | .unexpected [] => ⟨.unexpectedToken, 1⟩
  | .unexpected (token :: _) =>
    ⟨if token.lexeme = .indent then .unexpectedIndent else .unexpectedToken, token.position.line⟩

/-- The step that refuses whatever is at hand. -/
def Rules.none : Rules where
  expression := Reading.refuse
  disjunction := Reading.refuse
  operand := Reading.refuse
  negation := Reading.refuse
  factor := Reading.refuse
  pattern := Reading.refuse
  block := Reading.refuse
  field := fun line _ => .error ⟨.unexpectedToken, line⟩

/-- Checks the text of an expression in an interpolated string. -/
def checkField (rules : Rules) (line : Nat) (text : Text) : Except Fault Unit :=
  -- The parentheses let the text go over several lines.
  match scan ('(' :: text ++ [')']) with
  | .error fault => .error { fault with line := line + fault.line - 1 }
  | .ok tokens =>
    match (rules.starExpressions).run tokens with
    | .error refusal => .error { refusal.toFault with line := line + refusal.toFault.line - 1 }
    | .ok _ => .ok ()

/-- The rules of the grammar for constructs that lie within each other up to a depth. -/
def Rules.upTo : Nat → Rules
  | 0 => Rules.none
  | depth + 1 =>
    { expression := fun tokens => (Rules.upTo depth).conditional tokens
      disjunction := fun tokens => (Rules.upTo depth).alternatives tokens
      operand := fun tokens => (Rules.upTo depth).arithmetic tokens
      negation := fun tokens => (Rules.upTo depth).inversion tokens
      factor := fun tokens => (Rules.upTo depth).signed tokens
      pattern := fun tokens => (Rules.upTo depth).patternWithName tokens
      block := fun tokens => (Rules.upTo depth).suite tokens
      field := fun line text => checkField (Rules.upTo depth) line text }

/-- The syntax tree of a source. -/
def parse (source : Text) : Except Fault Node := do
  -- Every construct within another one takes a character at least, and those of a block take more.
  let tokens ← scan source
  let file : Reading (List Node) := do
    let found ← (Rules.upTo (source.length + 16)).statements
    Reading.expect .finish
    return found
  match file.run tokens with
  | .ok (found, _) => return .group found
  | .error refusal => .error refusal.toFault

end AssetCatalog.Source
