import AssetCatalog.Source.Fault
import AssetCatalog.Source.Token

/-! Reading tokens: steps that take some of them or refuse the one at hand. -/

namespace AssetCatalog.Source

/-- Why a step did not succeed. -/
inductive Refusal where
  /-- The first of these tokens may not stand here. -/
  | unexpected (rest : List Token)
  /-- A token is faulty in itself. -/
  | fault (fault : Fault)

/-- A step that reads tokens. -/
abbrev Reading := StateT (List Token) (Except Refusal)

namespace Reading

/-- An operator or a delimiter. -/
def mark (spelling : String) : Lexeme :=
  .mark spelling.toList

/-- A reserved word. -/
def word (spelling : String) : Lexeme :=
  .keyword spelling.toList

/-- Refuses the token at hand. -/
def refuse {α : Type} : Reading α := fun rest =>
  .error (.unexpected rest)

/-- What the token at hand is. -/
def peek : Reading Lexeme := do
  match ← get with
  | [] => return .finish
  | token :: _ => return token.lexeme

/-- What the token behind the one at hand is. -/
def peekNext : Reading Lexeme := do
  match ← get with
  | _ :: token :: _ => return token.lexeme
  | _ => return .finish

/-- Passes the token at hand. -/
def advance : Reading Unit :=
  modify List.tail

/-- Passes the token at hand if it is the given one, and tells whether it was. -/
def accept (lexeme : Lexeme) : Reading Bool := do
  if (← peek) = lexeme then
    advance
    return true
  else return false

/-- Passes the given token and refuses any other. -/
def expect (lexeme : Lexeme) : Reading Unit := do
  if !(← accept lexeme) then refuse

/-- Passes a name. -/
def name : Reading Text := do
  match ← peek with
  | .name spelling => do
    advance
    return spelling
  | _ => refuse

/-- The first of two steps that is not refused; a faulty token ends both. -/
def orElse {α : Type} (first second : Reading α) : Reading α := fun rest =>
  match first rest with
  | .error (.unexpected _) => second rest
  | result => result

/-- What steps give, one after the other, until one gives nothing. -/
def repeatSteps {α : Type} (step : Reading (Option α)) : Nat → Reading (List α)
  | 0 => return []
  | fuel + 1 => do
    match ← step with
    | none => return []
    | some found => return found :: (← repeatSteps step fuel)

/-- What a step gives, as often as it gives anything. -/
def many {α : Type} (step : Reading (Option α)) : Reading (List α) := do
  repeatSteps step (← get).length.succ

/-- What a step gives, if the token at hand is one to go on with. -/
def whenever {α : Type} (starts : Lexeme → Bool) (step : Reading α) : Reading (Option α) := do
  if starts (← peek) then return some (← step) else return none

/-- Items with commas between them from the next item on, if there is one; the last comma may trail. -/
def itemsAfterComma {α : Type} (starts : Lexeme → Bool) (item : Reading α) : Nat → Reading (List α)
  | 0 => return []
  | fuel + 1 => do
    if starts (← peek) then
      let found ← item
      if ← accept (mark ",") then return found :: (← itemsAfterComma starts item fuel)
      else return [found]
    else return []

/-- Any number of items with commas between them and perhaps one behind the last. -/
def items {α : Type} (starts : Lexeme → Bool) (item : Reading α) : Reading (List α) := do
  itemsAfterComma starts item (← get).length

/-- What a step gives behind each of the given tokens. -/
def behind {α : Type} (lexeme : Lexeme) (step : Reading α) : Reading (List α) :=
  many do if ← accept lexeme then return some (← step) else return none

/-- At least one item, with the given token between neighbours. -/
def separated {α : Type} (lexeme : Lexeme) (item : Reading α) : Reading (List α) := do
  return (← item) :: (← behind lexeme item)

end Reading

end AssetCatalog.Source
