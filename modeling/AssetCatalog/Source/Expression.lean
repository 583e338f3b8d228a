import AssetCatalog.Source.Interpolation
import AssetCatalog.Source.Literal
import AssetCatalog.Source.Number
import AssetCatalog.Source.Parameters

/-! Expressions, from the atoms up to conditions and anonymous functions. -/

namespace AssetCatalog.Source

open Reading

namespace Rules

/-- Ends the reading with a fault on a line. -/
def fail {α : Type} (line : Nat) (cause : Cause) : Reading α :=
  throw (.fault ⟨cause, line⟩)

/-- What a part of a reading without tokens gives, its cause being on a line. -/
def orFail {α : Type} (line : Nat) : Except Cause α → Reading α
  | .ok found => return found
  | .error cause => fail line cause

/-- The value of a string without fields. -/
def plainValue (line : Nat) (quotation : Quotation) : Reading Text :=
  if quotation.raw then return quotation.body else orFail line (Literal.decode quotation.body)

/-- Checks the parts of an interpolated string. -/
def checkParts (rules : Rules) (line : Nat) (raw : Bool) : List Interpolation.Part → Reading Unit
  | [] => return ()
  | .literal text :: parts => do
    -- A raw text has no escapes that could be malformed.
    if !raw then
      let _ ← orFail line (Literal.decode text)
    checkParts rules line raw parts
  | .field expression :: parts =>
    match rules.field line expression with
    | .ok () => checkParts rules line raw parts
    | .error fault => throw (.fault fault)

/-- The value of one string among neighbours, empty where it has none that is known. -/
def quotationValue (rules : Rules) (line : Nat) (quotation : Quotation) : Reading Text := do
  if quotation.bytes then
    if quotation.body.any fun c => 0x80 ≤ c.toNat then fail line .wideByte
    if !quotation.raw then orFail line (Literal.checkBytes quotation.body)
    return []
  else if quotation.interpolated then
    -- What is interpolated is not known, but its expressions have to be well-formed.
    let (parts, _) ← orFail line (Interpolation.parts quotation.raw 0 quotation.body.length.succ quotation.body)
    checkParts rules line quotation.raw parts
    return []
  else plainValue line quotation

/-- The string at hand, if the token at hand is one. -/
def string? : Reading (Option (Quotation × Position)) := do
  match ← get with
  | ⟨.string quotation, position⟩ :: rest => do
    set rest
    return some (quotation, position)
  | _ => return none

/-- Strings side by side, which make one string at the place of the first. -/
def strings (rules : Rules) : Reading Node := do
  let found ← many string?
  match found with
  | [] => refuse
  | (first, position) :: rest =>
    let values ← found.mapM fun (quotation, place) => rules.quotationValue place.line quotation
    if rest.any fun (quotation, _) => quotation.bytes != first.bytes then fail position.line .mixedStrings
    else if first.bytes then return .group []
    -- One interpolated string is enough for the value of the whole not to be known.
    else if found.any fun (quotation, _) => quotation.interpolated then return ⟨.interpolated, []⟩
    else return ⟨.text values.flatten position, []⟩

/-- A number, which has no parts. -/
def number (spelling : Text) : Reading Node := do
  let line := ((← get).head?.map (·.position.line)).getD 0
  advance
  if 4300 < decimalDigits spelling then fail line (.tooManyDigits (decimalDigits spelling))
  else return .group []

/-- The part of a comprehension that runs over one iterable, if there is one. -/
def clause (rules : Rules) : Reading (Option Node) := do
  let isAsync ← accept (word "async")
  if ← accept (word "for") then
    let target ← rules.targets
    expect (word "in")
    let iterable ← rules.disjunction
    return some (.group (target :: iterable :: (← behind (word "if") rules.disjunction)))
  else if isAsync then refuse
  else return none

/-- The clauses of a comprehension, none behind an element that is unpacked. -/
def clauses (rules : Rules) (element : Node) : Reading (List Node) :=
  if element.kind = .starred then return [] else many rules.clause

/-- An element of a display. -/
def element (rules : Rules) : Reading Node :=
  rules.starredOr rules.namedExpression

/-- What is behind an opening parenthesis: a tuple, a generator or an expression by itself. -/
def parenthesized (rules : Rules) : Reading Node := do
  if ← accept (mark ")") then return ⟨.tuple, []⟩
  else if ← accept (word "yield") then
    let found ← rules.yielded
    expect (mark ")")
    return found
  else
    let first ← rules.element
    let clauses ← rules.clauses first
    if !clauses.isEmpty then
      expect (mark ")")
      return .group (first :: clauses)
    else if ← accept (mark ",") then
      let rest ← items startsItem rules.element
      expect (mark ")")
      return ⟨.tuple, first :: rest⟩
    -- A starred expression can only stand among the items of something.
    else if first.kind = .starred then refuse
    else
      expect (mark ")")
      return first

/-- What is behind an opening square bracket: a list or a comprehension. -/
def bracketed (rules : Rules) : Reading Node := do
  if ← accept (mark "]") then return ⟨.list, []⟩
  else
    let first ← rules.element
    let clauses ← rules.clauses first
    if !clauses.isEmpty then
      expect (mark "]")
      return .group (first :: clauses)
    else
      let rest ← if ← accept (mark ",") then items startsItem rules.element else pure []
      expect (mark "]")
      return ⟨.list, first :: rest⟩

/-- An entry of a dictionary: its key, if it is not one unpacked, and its value. -/
def entry (rules : Rules) : Reading (List Node × Node) := do
  if ← accept (mark "**") then return ([], ← rules.operand)
  else
    let key ← rules.expression
    expect (mark ":")
    return ([key], ← rules.expression)

/-- Whether a token starts an entry of a dictionary. -/
def startsEntry (lexeme : Lexeme) : Bool :=
  startsExpression lexeme || lexeme = mark "**"

/-- A dictionary with its first entry, from the comma behind that on: all keys and then all values. -/
def dictionary (rules : Rules) (first : List Node × Node) : Reading Node := do
  let rest ← if ← accept (mark ",") then items startsEntry rules.entry else pure []
  expect (mark "\x7d")
  return .group (first.1 ++ rest.flatMap Prod.fst ++ first.2 :: rest.map Prod.snd)

/-- What is behind an opening brace: a dictionary, a set, or a comprehension of either. -/
def braced (rules : Rules) : Reading Node := do
  -- A key is an expression that is neither unpacked nor given a name.
  if ← accept (mark "\x7d") then return .group []
  else if (← peek) = mark "**" then rules.dictionary (← rules.entry)
  else
    let isNamed := (← peekNext) = mark ":="
    let first ← rules.element
    if ← accept (mark ":") then
      if isNamed || first.kind = .starred then refuse
      let value ← rules.expression
      let clauses ← many rules.clause
      if clauses.isEmpty then rules.dictionary ([first], value)
      else
        expect (mark "\x7d")
        return .group (first :: value :: clauses)
    else
      let clauses ← rules.clauses first
      if !clauses.isEmpty then
        expect (mark "\x7d")
        return .group (first :: clauses)
      else
        let rest ← if ← accept (mark ",") then items startsItem rules.element else pure []
        expect (mark "\x7d")
        return .group (first :: rest)

/-- An atom. -/
def atom (rules : Rules) : Reading Node := do
  match ← peek with
  | .name spelling => do
    advance
    return ⟨.name (identifier spelling), []⟩
  | .number spelling => number spelling
  | .string _ => rules.strings
  | .keyword spelling =>
    if ["None", "True", "False"].any fun (constant : String) => constant.toList = spelling then
      advance
      return .group []
    else refuse
  | _ =>
    if ← accept (mark "(") then rules.parenthesized
    else if ← accept (mark "[") then rules.bracketed
    else if ← accept (mark "\x7b") then rules.braced
    else do
      expect (mark "...")
      return .group []

/-- How far the arguments of a call have come. -/
inductive Stage where
  /-- There were arguments by position only. -/
  | positional
  /-- There was a named argument. -/
  | named
  /-- There was a dictionary of arguments. -/
  | unpacked
deriving DecidableEq

/-- The arguments of a call from a place on, up to the closing parenthesis: those by position, and the named ones. -/
def argumentsFrom (rules : Rules) (stage : Stage) (generator : Bool) :
    Nat → Reading (List Node × List Node)
  -- A generator may stand without parentheses of its own where it is the only argument.
  | 0 => refuse
  | fuel + 1 => do
    if ← accept (mark ")") then return ([], [])
    let (positional, named, stage) ← (do
      if ← accept (mark "**") then return ([], [.group [← rules.expression]], Stage.unpacked)
      else if ← accept (mark "*") then
        if stage = .unpacked then refuse
        return ([⟨.starred, [← rules.expression]⟩], [], stage)
      else
        match ← peek, ← peekNext with
        | .name _, .mark ['='] => do
          advance
          advance
          return ([], [.group [← rules.expression]], if stage = .positional then .named else stage)
        | _, _ => do
          if stage ≠ .positional then refuse
          let first ← rules.namedExpression
          let clauses ← if generator then many rules.clause else pure []
          if clauses.isEmpty then return ([first], [], stage)
          else if (← peek) = mark ")" then return ([.group (first :: clauses)], [], stage)
          else refuse : Reading (List Node × List Node × Stage))
    if ← accept (mark ",") then
      let (morePositional, moreNamed) ← argumentsFrom rules stage false fuel
      return (positional ++ morePositional, named ++ moreNamed)
    else
      expect (mark ")")
      return (positional, named)

/-- The arguments behind an opening parenthesis. -/
def arguments (rules : Rules) (generator : Bool) : Reading (List Node) := do
  let (positional, named) ← argumentsFrom rules .positional generator (← get).length.succ
  return positional ++ named

/-- An expression, if the token at hand starts one. -/
def expression? (rules : Rules) : Reading (List Node) := do
  if startsExpression (← peek) then return [← rules.expression] else return []

/-- One index of a subscript: a slice, or an expression. -/
def index (rules : Rules) : Reading Node := do
  let isNamed := (← peekNext) = mark ":="
  let start ← if (← peek) = mark ":" then pure none else some <$> rules.namedExpression
  if ← accept (mark ":") then
    -- A slice cannot start with an expression that binds a name.
    if isNamed then refuse
    let stop ← rules.expression?
    let step ← if ← accept (mark ":") then rules.expression? else pure []
    return .group (start.toList ++ stop ++ step)
  else match start with
    | some node => return node
    | none => refuse

/-- One index of a subscript that may be unpacked. -/
def indexOrStarred (rules : Rules) : Reading Node := do
  if ← accept (mark "*") then return ⟨.starred, [← rules.expression]⟩ else rules.index

/-- The index of a subscript behind the opening bracket: one index, or the tuple of several. -/
def indices (rules : Rules) : Reading Node := do
  let found ← oneOrTuple (fun lexeme => startsItem lexeme || lexeme = mark ":") rules.indexOrStarred
  expect (mark "]")
  return if found.kind = .starred then ⟨.tuple, [found]⟩ else found

/-- The attributes, calls and subscripts behind an atom. -/
def trailers (rules : Rules) (node : Node) : Nat → Reading Node
  | 0 => return node
  | fuel + 1 => do
    if ← accept (mark ".") then trailers rules ⟨.attribute (identifier (← name)), [node]⟩ fuel
    else if ← accept (mark "(") then trailers rules ⟨.call, node :: (← rules.arguments true)⟩ fuel
    else if ← accept (mark "[") then trailers rules ⟨.subscript, [node, ← rules.indices]⟩ fuel
    else return node

/-- An atom with all that is behind it. -/
def primary (rules : Rules) : Reading Node := do
  rules.trailers (← rules.atom) (← get).length.succ

/-- A power, or its base by itself, which may be awaited. -/
def power (rules : Rules) : Reading Node := do
  let base ← if ← accept (word "await") then pure (Node.group [← rules.primary]) else rules.primary
  if ← accept (mark "**") then return .group [base, ← rules.factor] else return base

/-- A power with signs in front. -/
def signed (rules : Rules) : Reading Node := do
  match ← peek with
  | .mark ['+'] | .mark ['-'] | .mark ['~'] => do
    advance
    return .group [← rules.factor]
  | _ => rules.power

/-- Operands with operators of one rank between them, taken together from the left. -/
def chain (operators : List String) (operand : Reading Node) : Reading Node := do
  let isOperator (lexeme : Lexeme) : Bool := operators.any fun operator => lexeme = mark operator
  let first ← operand
  let rest ← many (whenever isOperator (do advance; operand))
  return rest.foldl (fun left right => .group [left, right]) first

/-- Arithmetic, from the operators that bind most to those that bind least. -/
def arithmetic (rules : Rules) : Reading Node :=
  [["*", "/", "//", "%", "@"], ["+", "-"], ["<<", ">>"], ["&"], ["^"], ["|"]].foldl
    (fun operand operators => chain operators operand) rules.signed

/-- Passes an operator of comparison, if there is one. -/
def comparator? : Reading Bool := do
  let lexeme ← peek
  if ["==", "!=", "<=", "<", ">=", ">"].any fun (operator : String) => lexeme = mark operator then
    advance
    return true
  else if ← accept (word "in") then return true
  -- Two operators consist of two words each.
  else if ← accept (word "is") then
    let _ ← accept (word "not")
    return true
  else if lexeme = word "not" && (← peekNext) = word "in" then
    advance
    advance
    return true
  else return false

/-- A comparison, or its first operand by itself. -/
def comparison (rules : Rules) : Reading Node := do
  let first ← rules.arithmetic
  let rest ← many do if ← comparator? then return some (← rules.arithmetic) else return none
  return groupIfMany (first :: rest)

/-- A comparison that may be negated. -/
def inversion (rules : Rules) : Reading Node := do
  if ← accept (word "not") then return .group [← rules.negation] else rules.comparison

/-- Alternatives, each of them a conjunction. -/
def alternatives (rules : Rules) : Reading Node := do
  let conjunction : Reading Node := do return groupIfMany (← separated (word "and") rules.inversion)
  return groupIfMany (← separated (word "or") conjunction)

/-- An anonymous function, behind its word. -/
def anonymous (rules : Rules) : Reading Node := do
  let parameters ← Parameters.read rules false (mark ":")
  expect (mark ":")
  return .group [parameters, ← rules.expression]

/-- An anonymous function, a condition with its two outcomes, or alternatives by themselves. -/
def conditional (rules : Rules) : Reading Node := do
  if ← accept (word "lambda") then rules.anonymous
  else
    let body ← rules.alternatives
    if ← accept (word "if") then
      let test ← rules.alternatives
      expect (word "else")
      return .group [test, body, ← rules.expression]
    else return body

end Rules

end AssetCatalog.Source
