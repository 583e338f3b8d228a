import AssetCatalog.Regex.Basic
import AssetCatalog.Unicode.Name
import AssetCatalog.Unicode.Word

/-! Reading a regular expression from its text, with the exact conditions under which it is refused. -/

namespace AssetCatalog.Regex

/-- Why a text is refused as a regular expression. -/
inductive ParseError where
  /-- The text is not a regular expression. -/
  | malformed
  /-- A repetition count is beyond the greatest one. -/
  | repetitionTooLarge
  /-- A repetition count has more digits than a number may be read from. -/
  | tooManyDigits (digits : Nat)
  /-- The options for both alphabets are set. -/
  | bothAlphabets
  /-- The machine gives up on the text, with the words that it has for this. -/
  | nestedTooDeeply (message : Text)
deriving DecidableEq, Repr

/-- The wording of an error. -/
def ParseError.message : ParseError → Text
  | malformed => "malformed pattern"
  | repetitionTooLarge => "the repetition number is too large"
  | tooManyDigits digits =>
    "Exceeds the limit (4300 digits) for integer string conversion: value has " ++ Text.ofNat digits
      ++ " digits; use sys.set_int_max_str_digits() to increase the limit"
  | bothAlphabets => "ASCII and UNICODE flags are incompatible"
  | nestedTooDeeply message => message

/-- One character of the pattern, or a backslash with the character behind it. -/
inductive Token where
  /-- A character by itself. -/
  | char (c : Char)
  /-- A backslash and a character. -/
  | escape (c : Char)
  /-- A backslash at the very end. -/
  | loneBackslash
deriving DecidableEq, Repr

/-- The tokens of a pattern. -/
def tokens : Text → List Token
  | [] => []
  | '\\' :: c :: rest => .escape c :: tokens rest
  | ['\\'] => [.loneBackslash]
  | c :: rest => .char c :: tokens rest

/-- The text of a token. -/
def Token.text : Token → Text
  | char c => [c]
  | escape c => ['\\', c]
  | loneBackslash => ['\\']

/-- What is known while a pattern is read. -/
structure Reader where
  /-- The tokens to come. -/
  rest : List Token
  /-- The options set for the whole pattern. -/
  options : RegexOptions := {}
  /-- The groups with names. -/
  names : List (Text × Nat) := []
  /-- The widths of the groups so far, missing for those still open. -/
  widths : List (Option Width) := []
  /-- The number of groups, the whole pattern included, when the outermost look behind began. -/
  lookBehind : Option Nat := none
  /-- The greatest group number that a condition asks for. -/
  asked : Nat := 0

/-- A step of reading. -/
abbrev Reading := StateT Reader (Except ParseError)

namespace Reading

/-- Refuses the pattern. -/
def refuse {α : Type} : Reading α :=
  throw .malformed

/-- The next token, which stays. -/
def peek : Reading (Option Token) := do
  return (← get).rest.head?

/-- Drops the next token; what comes into view must not be a lone backslash. -/
def advance : Reading Unit := do
  let rest := (← get).rest.tail
  if rest.head? = some .loneBackslash then refuse
  modify fun reader => { reader with rest := rest }

/-- Takes the next token. -/
def next : Reading (Option Token) := do
  let token ← peek
  advance
  return token

/-- Takes the next token if it is the given character, and says whether it was. -/
def accept (c : Char) : Reading Bool := do
  if (← peek) = some (.char c) then
    advance
    return true
  else return false

/-- Takes up to a number of characters that pass a test. -/
def takeUpTo (test : Char → Bool) : Nat → Reading Text
  | 0 => return []
  | n + 1 => do
    match ← peek with
    | some (.char c) =>
      if test c then
        advance
        return c :: (← takeUpTo test n)
      else return []
    | _ => return []

/-- Takes all digits at hand; there are at most as many as tokens. -/
def digits : Reading Text := do
  takeUpTo Char.isDigit (← get).rest.length

/-- The text up to a closing character, which is taken too; it must not be empty. -/
def textUntil (stop : Char) : Reading Text := do
  let rec go : Nat → Text → Reading Text
    | 0, _ => refuse
    | n + 1, found => do
      match ← next with
      | none => refuse
      | some token =>
        if token = .char stop then
          if found.isEmpty then refuse else return found
        else go n (found ++ token.text)
  go ((← get).rest.length + 1) []

/-- The number of groups so far, the whole pattern included. -/
def groupCount : Reading Nat := do
  return (← get).widths.length + 1

/-- Whether a group exists and is closed. -/
def isClosed (number : Nat) : Reading Bool := do
  if number = 0 then return false
  return match (← get).widths[number - 1]? with
    | some (some _) => true
    | _ => false

/-- Checks that a look behind may refer to a group: one that was closed before it began. -/
def checkLookBehind (number : Nat) : Reading Unit := do
  match (← get).lookBehind with
  | none => return
  | some limit =>
    if !(← isClosed number) then refuse
    if limit ≤ number then refuse

/-- The greatest number of groups, the whole pattern included. -/
def groupLimit : Nat := 1073741823

/-- Opens a group, which must not take a name that another one has. -/
def openGroup (name : Option Text) : Reading Nat := do
  let number ← groupCount
  modify fun reader => { reader with widths := reader.widths ++ [none] }
  if groupLimit < (← groupCount) then refuse
  if let some name := name then
    if ((← get).names.lookup name).isSome then refuse
    modify fun reader => { reader with names := (name, number) :: reader.names }
  return number

/-- The widths of the closed groups. -/
def groupWidths : Reading (Nat → Width) := do
  let widths := (← get).widths
  return fun number => (widths[number - 1]?.join).getD (0, some 0)

/-- Closes a group, whose width is known from here on. -/
def closeGroup (number : Nat) (body : Regex) : Reading Unit := do
  let width := body.width (← groupWidths)
  modify fun reader => { reader with widths := reader.widths.set (number - 1) (some width) }

end Reading

open Reading

/-- The value of digits in a base. -/
def numeral (base : Nat) (digits : Text) : Nat :=
  digits.foldl (fun value c =>
    base * value + (if c.isDigit then c.toNat - '0'.toNat
      else c.toLower.toNat - 'a'.toNat + 10)) 0

/-- Whether a character is a hexadecimal digit. -/
def isHexDigit (c : Char) : Bool :=
  c.isDigit || ('a' ≤ c && c ≤ 'f') || ('A' ≤ c && c ≤ 'F')

/-- Whether a character is an octal digit. -/
def isOctalDigit (c : Char) : Bool :=
  '0' ≤ c && c ≤ '7'

/-- The control characters that have a letter of their own. -/
def controlEscape? : Char → Option Nat
  | 'a' => some 0x07
  | 'b' => some 0x08
  | 'f' => some 0x0C
  | 'n' => some 0x0A
  | 'r' => some 0x0D
  | 't' => some 0x09
  | 'v' => some 0x0B
  | '\\' => some 0x5C
  | _ => none

/-- The classes that have an escape. -/
def classEscape? : Char → Option ClassItem
  | 'd' => some (.category .digit false)
  | 'D' => some (.category .digit true)
  | 's' => some (.category .blank false)
  | 'S' => some (.category .blank true)
  | 'w' => some (.category .word false)
  | 'W' => some (.category .word true)
  | _ => none

/-- The places that have an escape. -/
def anchorEscape? : Char → Option Anchor
  | 'A' => some .textStart
  | 'b' => some .wordBoundary
  | 'B' => some .notWordBoundary
  | 'Z' => some .textEnd
  | _ => none

/-- A code point given by exactly so many hexadecimal digits. -/
def hexEscape (count : Nat) : Reading Nat := do
  let digits ← takeUpTo isHexDigit count
  if digits.length ≠ count then refuse
  let code := numeral 16 digits
  if 0x10FFFF < code then refuse
  return code

/-- The code point of a character that is given by its name between braces. -/
def nameEscape : Reading Nat := do
  if !(← accept '\x7b') then refuse
  let some c := Unicode.named? (← textUntil '\x7d') | refuse
  return c.toNat

/-- The code point of an escape that means the same inside and outside of sets. -/
def commonEscape (c : Char) : Reading Nat := do
  match c with
  | 'x' => hexEscape 2
  | 'u' => hexEscape 4
  | 'U' => hexEscape 8
  | 'N' => nameEscape
  | _ => if c.isAlphanum then refuse else return c.toNat

/-- The item for an escape inside a set. -/
def setEscape (c : Char) : Reading ClassItem := do
  match controlEscape? c, classEscape? c with
  | some value, _ => return .code value
  | none, some item => return item
  | none, none =>
    -- Up to three octal digits are a code, which has to fit in a byte.
    if isOctalDigit c then
      let value := numeral 8 (c :: (← takeUpTo isOctalDigit 2))
      if 0o377 < value then refuse
      return .code value
    else return .code (← commonEscape c)

/-- The reference to a group by its number, which must be closed. -/
def reference (number : Nat) : Reading Regex := do
  if !(← isClosed number) then refuse
  checkLookBehind number
  return .backreference number

/-- The expression for a digit behind a backslash: a code point in octal, or a group. -/
def digitEscape (first : Char) : Reading Regex := do
  if first = '0' then
    return .code (numeral 8 (first :: (← takeUpTo isOctalDigit 2)))
  match ← takeUpTo Char.isDigit 1 with
  | [second] =>
    -- Three octal digits are a code, and fewer digits the number of a group.
    let third ← if isOctalDigit first && isOctalDigit second then takeUpTo isOctalDigit 1 else pure []
    if third.isEmpty then reference (numeral 10 [first, second])
    else
      let value := numeral 8 (first :: second :: third)
      if 0o377 < value then refuse
      return .code value
  | _ => reference (numeral 10 [first])

/-- The expression for an escape outside of sets. -/
def escape (c : Char) : Reading Regex := do
  match anchorEscape? c, classEscape? c, controlEscape? c with
  | some place, _, _ => return .anchor place
  | none, some item, _ => return .oneOf false [item]
  | none, none, some value => return .code value
  | none, none, none => if c.isDigit then digitEscape c else return .code (← commonEscape c)

/-- The item that a token stands for inside a set. -/
def setItem : Token → Reading ClassItem
  | .char c => return .code c.toNat
  | .escape c => setEscape c
  | .loneBackslash => refuse

/-- The items of a set up to its closing bracket, which closes nothing at the front. -/
def setItems : Nat → List ClassItem → Reading (List ClassItem)
  | 0, _ => refuse
  | fuel + 1, items => do
    let some token ← next | refuse
    if token = .char ']' && !items.isEmpty then return items
    let first ← setItem token
    if ← accept '-' then
      -- A hyphen before the closing bracket stands for itself.
      let some token ← next | refuse
      if token = .char ']' then return items ++ [first, .code '-'.toNat]
      match first, ← setItem token with
      | .code low, .code high =>
        if high < low then refuse
        setItems fuel (items ++ [.range low high])
      | _, _ => refuse
    else setItems fuel (items ++ [first])

/-- A set behind its opening bracket. -/
def set : Reading Regex := do
  let negated ← accept '^'
  let items ← setItems ((← get).rest.length + 1) []
  match items.eraseDups with
  | [.code value] => return if negated then .notCode value else .code value
  | items => return .oneOf negated items

/-- The greatest repetition count, which itself is not allowed. -/
def repetitionLimit : Nat := 4294967295

/-- The greatest number of digits that a whole number is read from. -/
def digitLimit : Nat := 4300

/-- A repetition count from its digits. -/
def count (digits : Text) : Reading Nat := do
  if digitLimit < digits.length then throw (.tooManyDigits digits.length)
  let value := numeral 10 digits
  if repetitionLimit ≤ value then throw .repetitionTooLarge
  return value

/-- The counts between braces, or nothing where the brace stands for itself. -/
def braces : Reading (Option (Nat × Option Nat)) := do
  if (← peek) = some (.char '}') then return none
  let start ← get
  let low ← digits
  let high ← if ← accept ',' then digits else pure low
  -- Braces around anything but counts are read again as characters.
  if !(← accept '}') then
    MonadStateOf.set start
    return none
  let least ← if low.isEmpty then pure 0 else count low
  -- Without a second count there is no upper limit.
  if high.isEmpty then return some (least, none)
  let most ← count high
  if most < least then refuse
  return some (least, some most)

/-- The counts of a repetition mark, or nothing where a brace stands for itself. -/
def repetition? (c : Char) : Reading (Option (Nat × Option Nat)) := do
  match c with
  | '?' => return some (0, some 1)
  | '*' => return some (0, none)
  | '+' => return some (1, none)
  | _ => braces

/-- One part of a sequence; a group that only holds its parts together may be repeated whatever it holds. -/
structure Part where
  /-- The expression. -/
  regex : Regex
  /-- Whether a repetition mark may follow. -/
  repeatable : Bool := true

/-- The part for an expression outside of any group. -/
def Part.ofRegex (regex : Regex) : Part where
  regex := regex
  repeatable := match regex with
    | .anchor _ | .repeated .. => false
    | _ => true

/-- Repeats the last part of a reversed sequence. -/
def repeatLast (least : Nat) (most : Option Nat) (parts : List Part) : Reading (List Part) := do
  match parts with
  | [] => refuse
  | part :: before =>
    if !part.repeatable then refuse
    -- A plus sign counts only where there is no question mark, so it is read within its own branch.
    let greed ← if ← accept '?' then pure .lazy
      else do
        let possessive ← accept '+'
        pure (if possessive then .possessive else .greedy)
    return ⟨.repeated greed least most part.regex, false⟩ :: before

/-- The expression of a reversed sequence of parts. -/
def sequence (parts : List Part) : Regex :=
  parts.foldl (fun tail part => match tail with
    | .empty => part.regex
    | tail => .seq part.regex tail) .empty

/-- The letters of the options. -/
def optionLetter? : Char → Option RegexOptions
  | 'i' => some { ignoreCase := true }
  | 'm' => some { multiline := true }
  | 's' => some { dotAll := true }
  | 'x' => some { verbose := true }
  | 'a' => some { ascii := true }
  | 'u' => some { unicode := true }
  | 't' => some { template := true }
  | _ => none

/-- Takes option letters up to one of the closing characters; a first letter may be given. -/
def optionLetters (allowed : RegexOptions → Bool) (stops : List Char) :
    Nat → RegexOptions → Char → Reading (RegexOptions × Char)
  | 0, _, _ => refuse
  | fuel + 1, found, c => do
    let some option := optionLetter? c | refuse
    let found := found.union option
    if !allowed found then refuse
    match ← next with
    | some (.char c) =>
      if stops.contains c then return (found, c)
      optionLetters allowed stops fuel found c
    | _ => refuse

/-- The options behind a question mark: set for the whole pattern, or set and cleared for a group. -/
def options (first : Char) : Reading (Option (RegexOptions × RegexOptions)) := do
  let fuel := (← get).rest.length + 1
  -- The two alphabets exclude each other.
  let (found, stop) ← if first = '-' then pure (({} : RegexOptions), '-')
    else optionLetters (fun o => !(o.ascii && o.unicode)) [')', '-', ':'] fuel {} first
  if stop = ')' then
    modify fun reader => { reader with options := reader.options.union found }
    return none
  if found.template then refuse
  if stop = ':' then return some (found, {})
  let some (.char c) ← next | refuse
  let (cleared, _) ← optionLetters (fun o => !(o.ascii || o.unicode)) [':'] fuel {} c
  if cleared.template || found.overlaps cleared then refuse
  return some (found, cleared)

/-- Skips a comment up to its closing parenthesis. -/
def skipComment : Nat → Reading Unit
  | 0 => refuse
  | fuel + 1 => do
    match ← next with
    | none => refuse
    | some token => if token = .char ')' then return else skipComment fuel

/-- Skips the rest of a line. -/
def skipLine : Nat → Reading Unit
  | 0 => return
  | fuel + 1 => do
    match ← next with
    | none => return
    | some token => if token = .char '\n' then return else skipLine fuel

/-- Whether a character is skipped in a verbose pattern. -/
def isLayout (c : Char) : Bool :=
  c == ' ' || (0x09 ≤ c.toNat && c.toNat ≤ 0x0D)

/-- The whole number that a text spells in decimal digits of any kind, unless it has a minus sign. -/
def wholeNumber? (text : Text) : Option Nat :=
  -- White space may surround it, a plus sign may stand before the digits, and underscores between them.
  let bare := text.trim fun c => isLayout c || (0x80 ≤ c.toNat && Unicode.isBlank c)
  let unsigned := match bare with
    | '+' :: rest => rest
    | rest => rest
  let pieces := unsigned.splitOn '_'
  if (pieces.all fun piece => !piece.isEmpty && piece.all Unicode.isDecimalDigit)
      && pieces.flatten.length ≤ digitLimit then
    some (pieces.flatten.foldl (fun value c => 10 * value + Unicode.decimalValue c) 0)
  else none

/-- The number of the group that a condition asks for: by name, or by a number of its own. -/
def conditionGroup (name : Text) : Reading Nat := do
  if Unicode.isIdentifier name then
    let some number := (← get).names.lookup name | refuse
    return number
  else
    let some number := wholeNumber? name | refuse
    if number = 0 || groupLimit ≤ number then refuse
    modify fun reader => { reader with asked := max reader.asked number }
    return number

/-- The closing parenthesis of a group. -/
def close : Reading Unit := do
  if !(← accept ')') then refuse

/-- What a parenthesis opens. -/
inductive Opening where
  /-- A group to remember. -/
  | capture (name : Option Text)
  /-- A group that only holds its parts together. -/
  | plain
  /-- A group under changed options. -/
  | withOptions (set cleared : RegexOptions)
  /-- A group whose first match is final. -/
  | atomic
  /-- A look ahead. -/
  | ahead (negated : Bool)
  /-- A look behind. -/
  | behind (negated : Bool)
  /-- A condition on a group. -/
  | condition (name : Text)
  /-- Options for the whole pattern. -/
  | global
  /-- A comment, which stands for nothing. -/
  | comment
  /-- A reference to a group by name. -/
  | reference (name : Text)

/-- A group name, which must be an identifier. -/
def groupName (stop : Char) : Reading Text := do
  let name ← textUntil stop
  if !Unicode.isIdentifier name then refuse
  return name

/-- What an opening parenthesis opens, read up to the body. -/
def opening : Reading Opening := do
  if !(← accept '?') then return .capture none
  let some (.char c) ← next | refuse
  match c with
  | 'P' =>
    if ← accept '<' then return .capture (some (← groupName '>'))
    if ← accept '=' then return .reference (← groupName ')')
    refuse
  | ':' => return .plain
  | '#' =>
    skipComment ((← get).rest.length + 1)
    return .comment
  | '=' => return .ahead false
  | '!' => return .ahead true
  | '<' =>
    match ← next with
    | some (.char '=') => return .behind false
    | some (.char '!') => return .behind true
    | _ => refuse
  | '(' => return .condition (← textUntil ')')
  | '>' => return .atomic
  -- Anything else has to be an option, or the hyphen in front of those to be cleared.
  | c =>
    if c = '-' || (optionLetter? c).isSome then
      match ← options c with
      | none => return .global
      | some (set, cleared) => return .withOptions set cleared
    else refuse

mutual

/-- Alternatives up to a closing parenthesis or the end. -/
def alternatives : Nat → Bool → Bool → Reading Regex
  -- Options for the whole pattern may stand at its very start, and they count for the next alternative.
  | 0, _, _ => refuse
  | fuel + 1, verbose, outermost => do
    let first ← parts fuel verbose outermost []
    moreAlternatives fuel verbose outermost first

/-- The alternatives behind the first. -/
def moreAlternatives : Nat → Bool → Bool → Regex → Reading Regex
  | 0, _, _, _ => refuse
  | fuel + 1, verbose, outermost, first => do
    if ← accept '|' then
      let reader ← get
      let verbose := if outermost then reader.options.verbose else verbose
      let second ← parts fuel verbose false []
      return .either first (← moreAlternatives fuel verbose outermost second)
    else return first

/-- A sequence of parts; those read so far are reversed. -/
def parts : Nat → Bool → Bool → List Part → Reading Regex
  | 0, _, _, _ => refuse
  | fuel + 1, verbose, atStart, before => do
    match ← peek with
    | none => return sequence before
    | some .loneBackslash => refuse
    | some (.escape c) =>
      advance
      parts fuel verbose atStart (.ofRegex (← escape c) :: before)
    | some (.char c) =>
      if c = '|' || c = ')' then return sequence before
      advance
      -- In verbose expressions, blanks and comments stand for nothing.
      if verbose && isLayout c then parts fuel verbose atStart before
      else if verbose && c = '#' then
        skipLine ((← get).rest.length + 1)
        parts fuel verbose atStart before
      else match c with
      | '[' => parts fuel verbose atStart (.ofRegex (← set) :: before)
      | '.' => parts fuel verbose atStart (.ofRegex .any :: before)
      | '^' => parts fuel verbose atStart (.ofRegex (.anchor .lineStart) :: before)
      | '$' => parts fuel verbose atStart (.ofRegex (.anchor .lineEnd) :: before)
      | '*' | '+' | '?' | '\x7b' =>
        match ← repetition? c with
        | some (least, most) => parts fuel verbose atStart (← repeatLast least most before)
        | none => parts fuel verbose atStart (.ofRegex (.code c.toNat) :: before)
      | '(' =>
        match ← opening with
        | .comment => parts fuel verbose atStart before
        | .global =>
          -- Options for the whole expression have to be at its front.
          if !atStart || !before.isEmpty then refuse
          parts fuel (← get).options.verbose atStart before
        | .reference name =>
          let some number := (← get).names.lookup name | refuse
          parts fuel verbose atStart (.ofRegex (← reference number) :: before)
        | other => parts fuel verbose atStart ((← body fuel verbose other) :: before)
      | c => parts fuel verbose atStart (.ofRegex (.code c.toNat) :: before)

/-- The body of what a parenthesis opened, with the closing parenthesis. -/
def body : Nat → Bool → Opening → Reading Part
  | 0, _, _ => refuse
  | fuel + 1, verbose, opening => do
    match opening with
    | .capture name =>
      let number ← openGroup name
      let inner ← alternatives fuel verbose false
      close
      closeGroup number inner
      return ⟨.group number inner, true⟩
    | .withOptions set cleared =>
      let inner ← alternatives fuel ((verbose || set.verbose) && !cleared.verbose) false
      close
      return ⟨.withOptions set cleared inner, true⟩
    | .atomic =>
      let inner ← alternatives fuel verbose false
      close
      return ⟨.atomic inner, true⟩
    | .ahead negated =>
      let inner ← alternatives fuel verbose false
      close
      return ⟨.ahead negated inner, true⟩
    | .behind negated =>
      -- Groups that are opened in the outermost look behind, or later, are out of its reach.
      let outer := (← get).lookBehind
      if outer.isNone then
        let limit ← groupCount
        modify fun reader => { reader with lookBehind := some limit }
      let inner ← alternatives fuel verbose false
      modify fun reader => { reader with lookBehind := outer }
      close
      return ⟨.behind negated (inner.fixedWidth? (← groupWidths)) inner, true⟩
    | .condition name =>
      let number ← conditionGroup name
      checkLookBehind number
      let present ← parts fuel verbose false []
      let absent ← if ← accept '|' then
          let absent ← parts fuel verbose false []
          -- A condition chooses between two sequences, so there is no third one.
          if (← peek) = some (.char '|') then refuse
          pure absent
        else pure .empty
      close
      return ⟨.conditional number present absent, true⟩
    | _ =>
      let inner ← alternatives fuel verbose false
      close
      return ⟨inner, true⟩

end

/-- A regular expression ready for matching: its tree and the options of the whole pattern. -/
structure Pattern where
  /-- The tree. -/
  regex : Regex
  /-- The options. -/
  options : RegexOptions
deriving DecidableEq, Repr

/-- Reads a regular expression. -/
def parse (text : Text) : Except ParseError Pattern := do
  -- Each call takes a token or returns after one that did, so the calls are bounded by the tokens.
  let all := tokens text
  if all.head? = some .loneBackslash then throw .malformed
  let (regex, reader) ← (alternatives (4 * all.length + 8) false true).run { rest := all }
  if reader.options.ascii && reader.options.unicode then throw .bothAlphabets
  if !reader.rest.isEmpty then throw .malformed
  if reader.widths.length < reader.asked then throw .malformed
  if !regex.isSupported reader.options.template then throw .malformed
  return ⟨regex, reader.options⟩

end AssetCatalog.Regex
