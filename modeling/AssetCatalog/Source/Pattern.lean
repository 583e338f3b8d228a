import AssetCatalog.Source.Expression

/-! Patterns of match statements. -/

namespace AssetCatalog.Source

open Reading

namespace Rules

/-- The name that matches anything and keeps nothing. -/
def wildcard : Text :=
  ['_']

/-- Whether a token would make a name in front of it something else than a capture. -/
def extendsName (lexeme : Lexeme) : Bool :=
  [".", "(", "="].any fun (spelling : String) => lexeme = mark spelling

/-- A name that captures what is matched. -/
def captureName : Reading Unit := do
  let spelling ← name
  if spelling = wildcard || extendsName (← peek) then refuse

/-- The spelling of a number at hand, and its line. -/
def numberSpelling : Reading (Text × Nat) := do
  match ← get with
  | ⟨.number spelling, position⟩ :: _ => return (spelling, position.line)
  | _ => refuse

/-- A number with or without a sign, or the sum of a real and an imaginary one. -/
def signedNumber : Reading Node := do
  let _ ← accept (mark "-")
  let (spelling, line) ← numberSpelling
  let real ← number spelling
  match ← peek with
  | .mark ['+'] | .mark ['-'] => do
    -- Of two numbers, only the second is imaginary, and it has to be.
    if isImaginary spelling then fail line (.wrongPart "real")
    advance
    let (spelling, line) ← numberSpelling
    if !isImaginary spelling then fail line (.wrongPart "imaginary")
    return .group [real, ← number spelling]
  | _ => return real

/-- Whether a token starts a literal of a pattern. -/
def startsLiteral : Lexeme → Bool
  | .number _ | .string _ | .mark ['-'] => true
  | .keyword spelling => ["None", "True", "False"].any fun (constant : String) => constant.toList = spelling
  | _ => false

/-- A literal of a pattern. -/
def literal (rules : Rules) : Reading Node := do
  match ← peek with
  | .string _ => rules.strings
  | .keyword _ => do
    advance
    return .group []
  | _ => signedNumber

/-- A name with attributes behind it. -/
def dottedName : Reading Node := do
  let first ← name
  let rest ← behind (mark ".") name
  return rest.foldl (fun node spelling => ⟨.attribute (identifier spelling), [node]⟩) ⟨.name (identifier first), []⟩

/-- A pattern for the rest of a sequence, or any other pattern. -/
def starredPattern (rules : Rules) : Reading Node := do
  if ← accept (mark "*") then
    if (← peek) = .name wildcard then advance else captureName
    return ⟨.starred, []⟩
  else rules.pattern

/-- Whether a token starts a pattern. -/
def startsPattern (lexeme : Lexeme) : Bool :=
  match lexeme with
  | .name _ => true
  | _ => startsLiteral lexeme || ["(", "[", "\x7b", "*"].any fun (spelling : String) => lexeme = mark spelling

/-- The patterns of a sequence behind its first, if a comma makes one. -/
def sequenceFrom (rules : Rules) (first : Node) : Reading (Option Node) := do
  if ← accept (mark ",") then
    return some (.group (first :: (← items startsPattern rules.starredPattern)))
  else return none

/-- What is behind an opening parenthesis: a sequence, or a pattern by itself. -/
def parenthesizedPattern (rules : Rules) : Reading Node := do
  if ← accept (mark ")") then return .group []
  else
    let first ← rules.starredPattern
    let found ← rules.sequenceFrom first
    if found.isNone && first.kind = .starred then refuse
    expect (mark ")")
    return found.getD first

/-- A key of a mapping with its pattern, or nothing for the name that takes the rest. -/
def mappingItem (rules : Rules) : Reading (Option (Node × Node)) := do
  if ← accept (mark "**") then
    captureName
    return none
  else
    let key ← if startsLiteral (← peek) then rules.literal else do
      let key ← dottedName
      -- A key without a dot would be a name to bind.
      match key.kind with
      | .attribute _ => pure key
      | _ => refuse
    expect (mark ":")
    return some (key, ← rules.pattern)

/-- What is behind an opening brace: all keys and then all patterns; the rest can be taken only at the end. -/
def mapping (rules : Rules) : Reading Node := do
  let found ← items (fun lexeme => startsPattern lexeme || lexeme = mark "**") rules.mappingItem
  expect (mark "\x7d")
  if found.dropLast.any Option.isNone then refuse
  let entries := found.filterMap id
  return .group (entries.map Prod.fst ++ entries.map Prod.snd)

/-- An argument of a class pattern, and whether it has a name. -/
def classItem (rules : Rules) : Reading (Bool × Node) := do
  match ← peek, ← peekNext with
  | .name _, .mark ['='] => do
    advance
    advance
    return (true, ← rules.pattern)
  | _, _ => return (false, ← rules.pattern)

/-- The arguments of a class pattern behind the opening parenthesis, those with names behind the others. -/
def classItems (rules : Rules) : Reading (List Node) := do
  let found ← items startsPattern rules.classItem
  expect (mark ")")
  if (found.dropWhile fun item => !item.1).any fun item => !item.1 then refuse
  return found.map Prod.snd

/-- A pattern without alternatives. -/
def closedPattern (rules : Rules) : Reading Node := do
  let lexeme ← peek
  if startsLiteral lexeme then return .group [← rules.literal]
  else if lexeme = .name wildcard then
    advance
    return .group []
  else match lexeme with
    | .name _ => do
      let value ← dottedName
      if ← accept (mark "(") then return .group (value :: (← rules.classItems))
      -- A name in front of an equals sign is that of an attribute, and no pattern.
      else if (← peek) = mark "=" then refuse
      -- A dotted name is looked up, and a plain one is bound.
      else match value.kind with
        | .attribute _ => return .group [value]
        | _ => return .group []
    | _ =>
      if ← accept (mark "(") then rules.parenthesizedPattern
      else if ← accept (mark "[") then
        let found ← items startsPattern rules.starredPattern
        expect (mark "]")
        return .group found
      else do
        expect (mark "\x7b")
        rules.mapping

/-- A pattern with its alternatives, and perhaps with a name for what is matched. -/
def patternWithName (rules : Rules) : Reading Node := do
  let found := groupIfMany (← separated (mark "|") rules.closedPattern)
  if ← accept (word "as") then
    captureName
    return .group [found]
  else return found

/-- The pattern of a case: a sequence without brackets, or one pattern. -/
def casePattern (rules : Rules) : Reading Node := do
  let first ← rules.starredPattern
  match ← rules.sequenceFrom first with
  | some found => return found
  | none => if first.kind = .starred then refuse else return first

end Rules

end AssetCatalog.Source
