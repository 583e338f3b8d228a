import AssetCatalog.Source.Pattern

/-! Statements, from the simple ones up to blocks. -/

namespace AssetCatalog.Source

open Reading

namespace Rules

/-- A yield expression, or expressions. -/
def assigned (rules : Rules) : Reading Node :=
  rules.yieldOr rules.starExpressions

/-- The marks of assignments that work on the old value. -/
def updateMarks : List Text :=
  ["+=", "-=", "*=", "@=", "/=", "%=", "&=", "|=", "^=", "<<=", ">>=", "**=", "//="].map String.toList

/-- Whether a token is the mark of an assignment that works on the old value. -/
def isUpdate : Lexeme → Bool
  | .mark spelling => updateMarks.contains spelling
  | _ => false

/-- An assignment of any form, or a statement that is an expression. -/
def assignment (rules : Rules) : Reading Node := do
  -- What is assigned to is read as expressions first; all of them but the last have to be targets.
  let first ← rules.assigned
  if (← peek) = mark ":" then
    if !first.isSingleTarget then refuse
    advance
    let hint ← rules.expression
    let value ← if ← accept (mark "=") then (fun node => [node]) <$> rules.assigned else pure []
    return ⟨.annotated, first :: hint :: value⟩
  else if isUpdate (← peek) then
    if !first.isSingleTarget then refuse
    advance
    return .group [first, ← rules.assigned]
  else
    let rest ← behind (mark "=") rules.assigned
    if rest.isEmpty then return ⟨.expression, [first]⟩
    else if Node.areTargets (first :: rest).dropLast then return .group (first :: rest)
    else refuse

/-- Names with commas between them. -/
def names : Reading Node := do
  let _ ← separated (mark ",") name
  return .group []

/-- Another name behind its word, if there is one. -/
def alias? : Reading Unit := do
  if ← accept (word "as") then
    let _ ← name

/-- A name with dots in it. -/
def modulePath : Reading Unit := do
  let _ ← separated (mark ".") name

/-- What is imported from a module: everything, or names with other names for them. -/
def importedNames : Reading Unit := do
  let imported : Reading Unit := do
    let _ ← name
    alias?
  if ← accept (mark "*") then return ()
  else if ← accept (mark "(") then
    imported
    -- Within parentheses there may be a comma behind the last name.
    if ← accept (mark ",") then
      let _ ← items startsExpression imported
    expect (mark ")")
  else
    let _ ← separated (mark ",") imported

/-- An import from a module, behind its first word; the module may be given by dots alone. -/
def importFrom : Reading Node := do
  let dots ← many do
    if ← accept (mark ".") then return some ()
    else if ← accept (mark "...") then return some ()
    else return none
  if dots.isEmpty || (← peek) ≠ word "import" then modulePath
  expect (word "import")
  importedNames
  return .group []

/-- An import of modules, behind its word. -/
def importModules : Reading Node := do
  let _ ← separated (mark ",") do
    modulePath
    alias?
  return .group []

/-- A deletion, behind its word. -/
def deletion (rules : Rules) : Reading Node := do
  let found ← oneOrTuple startsExpression rules.expression
  if !found.isDeletable then refuse
  return .group [found]

/-- An assertion, behind its word. -/
def assertion (rules : Rules) : Reading Node := do
  let test ← rules.expression
  let message ← if ← accept (mark ",") then (fun node => [node]) <$> rules.expression else pure []
  return ⟨.assertion, test :: message⟩

/-- The raising of an error, behind its word. -/
def raising (rules : Rules) : Reading Node := do
  let error ← rules.expression?
  if error.isEmpty then return .group []
  else if ← accept (word "from") then return .group (error ++ [← rules.expression])
  else return .group error

/-- The value that a function returns, behind its word. -/
def returned (rules : Rules) : Reading Node := do
  if startsItem (← peek) then return .group [← rules.starExpressions] else return .group []

/-- A statement without blocks. -/
def simpleStatement (rules : Rules) : Reading Node := do
  if ← accept (word "return") then rules.returned
  else if ← accept (word "import") then importModules
  else if ← accept (word "from") then importFrom
  else if ← accept (word "raise") then rules.raising
  else if ← accept (word "pass") then return .group []
  else if ← accept (word "break") then return .group []
  else if ← accept (word "continue") then return .group []
  else if ← accept (word "del") then rules.deletion
  else if ← accept (word "assert") then rules.assertion
  else if ← accept (word "global") then names
  else if ← accept (word "nonlocal") then names
  else rules.assignment

/-- Statements on one line from a place on, with semicolons between them. -/
def lineFrom (rules : Rules) : Nat → Reading (List Node)
  | 0 => refuse
  | fuel + 1 => do
    let first ← rules.simpleStatement
    if ← accept (mark ";") then
      if ← accept .newline then return [first] else return first :: (← lineFrom rules fuel)
    else
      expect .newline
      return [first]

/-- The statements on one line. -/
def line (rules : Rules) : Reading (List Node) := do
  rules.lineFrom (← get).length.succ

/-- The block behind a colon. -/
def body (rules : Rules) : Reading (List Node) := do
  expect (mark ":")
  rules.block

/-- The block behind a word and a colon, if the word is there. -/
def bodyBehind (rules : Rules) (spelling : String) : Reading (List Node) := do
  if ← accept (word spelling) then rules.body else return []

/-- A choice behind its first word, with all that is tried otherwise. -/
def choice (rules : Rules) : Nat → Reading Node
  | 0 => refuse
  | fuel + 1 => do
    let test ← rules.namedExpression
    let body ← rules.body
    let otherwise ← if ← accept (word "elif")
      then (fun node => [node]) <$> choice rules fuel else rules.bodyBehind "else"
    return .group (test :: body ++ otherwise)

/-- A loop over a condition, behind its word. -/
def loop (rules : Rules) : Reading Node := do
  let test ← rules.namedExpression
  let body ← rules.body
  return .group (test :: body ++ (← rules.bodyBehind "else"))

/-- A loop over an iterable, behind its word. -/
def iteration (rules : Rules) : Reading Node := do
  let target ← rules.targets
  expect (word "in")
  let iterable ← rules.starExpressions
  let body ← rules.body
  return .group (target :: iterable :: body ++ (← rules.bodyBehind "else"))

/-- One context of a with statement, perhaps with a target for it. -/
def context (rules : Rules) : Reading Node := do
  let value ← rules.expression
  if ← accept (word "as") then
    let target ← rules.starredOr rules.operand
    if target.isTarget then return .group [value, target] else refuse
  else return .group [value]

/-- The contexts of a with statement up to the colon: within parentheses, or without them. -/
def contexts (rules : Rules) : Reading (List Node) := do
  let within : Reading (List Node) := do
    expect (mark "(")
    let first ← rules.context
    let rest ← if ← accept (mark ",") then items startsExpression rules.context else pure []
    expect (mark ")")
    expect (mark ":")
    return first :: rest
  let plain : Reading (List Node) := do
    let found ← separated (mark ",") rules.context
    expect (mark ":")
    return found
  -- A parenthesis may also be the start of the first context, so that is tried as well.
  orElse within plain

/-- A statement with contexts, behind its word. -/
def contextual (rules : Rules) : Reading Node := do
  let found ← rules.contexts
  return .group (found ++ (← rules.block))

/-- A handler of errors, if there is one; all handlers of a statement have the same form. -/
def handler? (rules : Rules) (starred : Bool) : Reading (Option Node) := do
  if !(← accept (word "except")) then return none
  if (← accept (mark "*")) != starred then refuse
  if !starred && (← peek) = mark ":" then return some (.group (← rules.body))
  else
    let error ← rules.expression
    alias?
    return some (.group (error :: (← rules.body)))

/-- A statement with handlers of errors, behind its word. -/
def guarded (rules : Rules) : Reading Node := do
  let body ← rules.body
  let starred := (← peek) = word "except" && (← peekNext) = mark "*"
  let handlers ← many (rules.handler? starred)
  let otherwise ← if handlers.isEmpty then pure [] else rules.bodyBehind "else"
  if handlers.isEmpty && (← peek) ≠ word "finally" then refuse
  return .group (body ++ handlers ++ otherwise ++ (← rules.bodyBehind "finally"))

/-- A function, behind its word: the parameters, the body, the decorators and the annotation of the result. -/
def function (rules : Rules) (decorators : List Node) : Reading Node := do
  let _ ← name
  expect (mark "(")
  let parameters ← Parameters.read rules true (mark ")")
  expect (mark ")")
  let result ← if ← accept (mark "->") then (fun node => [node]) <$> rules.expression else pure []
  return .group (parameters :: (← rules.body) ++ decorators ++ result)

/-- A class, behind its word: the bases, the body and the decorators. -/
def classDefinition (rules : Rules) (decorators : List Node) : Reading Node := do
  let _ ← name
  let bases ← if ← accept (mark "(") then rules.arguments false else pure []
  return .group (bases ++ (← rules.body) ++ decorators)

/-- The decorators of a function or a class. -/
def decorators (rules : Rules) : Reading (List Node) :=
  behind (mark "@") do
    let found ← rules.namedExpression
    expect .newline
    return found

/-- A function or a class with its decorators, if there are any. -/
def definition (rules : Rules) : Reading Node := do
  let decorators ← rules.decorators
  if ← accept (word "class") then rules.classDefinition decorators
  else
    let _ ← accept (word "async")
    expect (word "def")
    rules.function decorators

/-- One case of a match statement, if there is one. -/
def case? (rules : Rules) : Reading (Option Node) := do
  if !(← accept (.name "case".toList)) then return none
  let pattern ← rules.casePattern
  let guard ← if ← accept (word "if") then (fun node => [node]) <$> rules.namedExpression else pure []
  return some (.group (pattern :: guard ++ (← rules.body)))

/-- A match statement. -/
def matching (rules : Rules) : Reading Node := do
  expect (.name "match".toList)
  let first ← rules.element
  let subject ← if ← accept (mark ",") then
      pure ⟨.tuple, first :: (← items startsItem rules.element)⟩
    -- A starred expression can only stand among several.
    else if first.kind = .starred then refuse
    else pure first
  expect (mark ":")
  expect .newline
  expect .indent
  let cases ← many rules.case?
  if cases.isEmpty then refuse
  expect .dedent
  return .group (subject :: cases)

/-- A statement that runs in a coroutine, behind its word. -/
def asynchronous (rules : Rules) : Reading Node := do
  if ← accept (word "for") then rules.iteration
  else if ← accept (word "with") then rules.contextual
  else
    expect (word "def")
    rules.function []

/-- A statement with blocks, or the statements on one line. -/
def statement (rules : Rules) : Reading (List Node) := do
  let one (step : Reading Node) : Reading (List Node) := do return [← step]
  match ← peek with
  | .keyword spelling =>
    if spelling = ("if" : Text) then one do advance; rules.choice (← get).length.succ
    else if spelling = ("while" : Text) then one do advance; rules.loop
    else if spelling = ("for" : Text) then one do advance; rules.iteration
    else if spelling = ("with" : Text) then one do advance; rules.contextual
    else if spelling = ("try" : Text) then one do advance; rules.guarded
    else if spelling = ("async" : Text) then one do advance; rules.asynchronous
    else if spelling = ("def" : Text) ∨ spelling = ("class" : Text) then one rules.definition
    else rules.line
  | .mark ['@'] => one rules.definition
  | .name spelling =>
    -- The word is an ordinary name elsewhere, so what is no such statement is read as a line.
    if spelling = ("match" : Text) then orElse (one rules.matching) rules.line else rules.line
  | _ => rules.line

/-- The statements up to the end of a block or of the source. -/
def statements (rules : Rules) : Reading (List Node) := do
  let isOver (lexeme : Lexeme) : Bool := lexeme = .dedent || lexeme = .finish
  return (← many (whenever (fun lexeme => !isOver lexeme) rules.statement)).flatten

/-- The block behind a colon: indented statements on lines of their own, or the rest of the line. -/
def suite (rules : Rules) : Reading (List Node) := do
  if ← accept .newline then
    expect .indent
    let found ← rules.statements
    if found.isEmpty then refuse
    expect .dedent
    return found
  else rules.line

end Rules

end AssetCatalog.Source
