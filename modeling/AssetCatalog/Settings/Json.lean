import AssetCatalog.Decimal.Shortest
import AssetCatalog.Module.Literal
import AssetCatalog.Settings.Value

/-! JSON: reading a value from its text with a place for every fault, and writing one with indents. -/

namespace AssetCatalog.Json

/-- What is wrong with a text. -/
inductive Fault where
  /-- A value is missing. -/
  | expectingValue
  /-- A key is missing. -/
  | expectingKey
  /-- The colon behind a key is missing. -/
  | expectingColon
  /-- A comma is missing. -/
  | expectingComma
  /-- A string does not end. -/
  | unterminatedString
  /-- A string holds a control character. -/
  | controlCharacter
  /-- A backslash is followed by a character that has no meaning there. -/
  | badEscape
  /-- A code point is not given by four hexadecimal digits. -/
  | badCodePoint
  /-- There is more text behind the value. -/
  | extraData
  /-- The text starts with a byte order mark. -/
  | byteOrderMark
deriving DecidableEq, Repr

/-- The wording of a fault. -/
def Fault.message : Fault → Text
  | expectingValue => "Expecting value"
  | expectingKey => "Expecting property name enclosed in double quotes"
  | expectingColon => "Expecting ':' delimiter"
  | expectingComma => "Expecting ',' delimiter"
  | unterminatedString => "Unterminated string starting at"
  | controlCharacter => "Invalid control character at"
  | badEscape => "Invalid \\escape"
  | badCodePoint => "Invalid \\uXXXX escape"
  | extraData => "Extra data"
  | byteOrderMark => "Unexpected UTF-8 BOM (decode using utf-8-sig)"

/-- Why a text could not be read. -/
inductive DecodeError where
  /-- The text is faulty at the place where this much of it is left. -/
  | fault (fault : Fault) (left : Nat)
  /-- A whole number has too many digits. -/
  | tooManyDigits (digits : Nat)
deriving DecidableEq, Repr

/-- The wording of an error in a text, with the line, the column and the character. -/
def DecodeError.message (text : Text) : DecodeError → Text
  | fault cause left =>
    -- A fault is kept with the number of characters left, which tells its place in any text.
    let position := text.length - left
    let before := text.take position
    let line := before.count '\n' + 1
    let column := (before.reverse.takeWhile (· != '\n')).length + 1
    cause.message ++ ": line " ++ Text.ofNat line ++ " column " ++ Text.ofNat column ++ " (char "
      ++ Text.ofNat position ++ ")"
  | tooManyDigits digits =>
    "Exceeds the limit (4300 digits) for integer string conversion: value has " ++ Text.ofNat digits
      ++ " digits; use sys.set_int_max_str_digits() to increase the limit"

/-- Stops at the given rest of the text. -/
def stop {α : Type} (fault : Fault) (rest : Text) : Except DecodeError (α × Text) :=
  .error (.fault fault rest.length)

/-- The text without the blanks at its front. -/
def skipBlanks (text : Text) : Text :=
  text.dropWhile fun c => c == ' ' || c == '\t' || c == '\n' || c == '\r'

/-- The value of a hexadecimal digit. -/
def hexValue? (c : Char) : Option Nat :=
  if c.isDigit then some (c.toNat - '0'.toNat)
  else if 'a' ≤ c ∧ c ≤ 'f' then some (c.toNat - 'a'.toNat + 10)
  else if 'A' ≤ c ∧ c ≤ 'F' then some (c.toNat - 'A'.toNat + 10)
  else none

/-- The value of four hexadecimal digits, and the text behind them. -/
def hexQuad? : Text → Option (Nat × Text)
  | a :: b :: c :: d :: rest => do
    return (4096 * (← hexValue? a) + 256 * (← hexValue? b) + 16 * (← hexValue? c) + (← hexValue? d), rest)
  | _ => none

/-- The code point at a code point escape behind its letter, with the second half of a pair where there is one. -/
def codePoint (text : Text) : Except DecodeError (Char × Text) :=
  -- The escape must not be the last thing in the text, for the string has still to be closed.
  if text.length ≤ 4 then .error (.fault .badCodePoint (text.length + 1))
  else match hexQuad? text with
    | none => .error (.fault .badCodePoint (text.length + 1))
    | some (high, rest) =>
      match rest with
      | '\\' :: 'u' :: low =>
        if 0xD800 ≤ high ∧ high < 0xDC00 ∧ 4 < low.length then
          match hexQuad? low with
          | none => .error (.fault .badCodePoint (low.length + 1))
          | some (second, after) =>
            if 0xDC00 ≤ second ∧ second < 0xE000 then
              .ok (Char.ofNat (0x10000 + (high - 0xD800) * 0x400 + (second - 0xDC00)), after)
            else .ok (Char.ofNat high, rest)
        else .ok (Char.ofNat high, rest)
      | _ => .ok (Char.ofNat high, rest)

/-- The character that a letter behind a backslash stands for. -/
def escaped? : Char → Option Char
  | '"' => some '"'
  | '\\' => some '\\'
  | '/' => some '/'
  | 'b' => some (Char.ofNat 0x08)
  | 'f' => some (Char.ofNat 0x0C)
  | 'n' => some '\n'
  | 'r' => some '\r'
  | 't' => some '\t'
  | _ => none

/-- The rest of a string behind its opening quote; the length left at that quote is for the message. -/
def stringRest (opened : Nat) : Nat → Text → Text → Except DecodeError (Text × Text)
  | 0, _, _ | _, _, [] => .error (.fault .unterminatedString opened)
  | fuel + 1, found, c :: rest =>
    if c = '"' then .ok (found.reverse, rest)
    else if c = '\\' then
      match rest with
      | [] => .error (.fault .unterminatedString opened)
      | 'u' :: rest => do
        let (c, rest) ← codePoint rest
        stringRest opened fuel (c :: found) rest
      | letter :: rest' =>
        match escaped? letter with
        | some c => stringRest opened fuel (c :: found) rest'
        | none => .error (.fault .badEscape (rest.length + 1))
    else if c.toNat < 0x20 then .error (.fault .controlCharacter (rest.length + 1))
    else stringRest opened fuel (c :: found) rest

/-- A string behind its opening quote. -/
def string (text : Text) : Except DecodeError (Text × Text) :=
  stringRest (text.length + 1) (text.length + 1) [] text

/-- The value of decimal digits. -/
def decimal (digits : Text) : Nat :=
  digits.foldl (fun value c => 10 * value + (c.toNat - '0'.toNat)) 0

/-- The exponent at the front of a text: its value and the text behind it, where it is complete. -/
def exponent? : Text → Option (Int × Text)
  | e :: rest =>
    if e = 'e' ∨ e = 'E' then
      let (negative, digits) := match rest with
        | '-' :: rest => (true, rest)
        | '+' :: rest => (false, rest)
        | rest => (false, rest)
      let found := digits.takeWhile Char.isDigit
      -- Without digits, the letter does not belong to the number.
      if found.isEmpty then none
      else some (if negative then -(decimal found : Int) else decimal found, digits.dropWhile Char.isDigit)
    else none
  | [] => none

/-- A number behind its sign; the rest at its start is for the message. -/
def number (negative : Bool) (start text : Text) : Except DecodeError (Value × Text) :=
  -- A leading zero ends the whole part.
  let whole := match text with
    | '0' :: _ => ['0']
    | _ => text.takeWhile Char.isDigit
  if whole.isEmpty then stop .expectingValue start
  else
    let rest := text.drop whole.length
    let (fraction, rest) := match rest with
      | '.' :: digits =>
        if (digits.takeWhile Char.isDigit).isEmpty then ([], rest)
        else (digits.takeWhile Char.isDigit, digits.dropWhile Char.isDigit)
      | _ => ([], rest)
    let power := exponent? rest
    if fraction.isEmpty ∧ power.isNone then
      if 4300 < whole.length then .error (.tooManyDigits whole.length)
      else
        let value : Int := decimal whole
        .ok (.int (if negative then -value else value), rest)
    else
      let (exponent, rest) := power.getD (0, rest)
      .ok (.real (Decimal.canonical negative (decimal (whole ++ fraction)) (exponent - fraction.length)), rest)

/-- The constants that are words. -/
def constants : List (Text × Value) :=
  [("null", .null), ("true", .bool true), ("false", .bool false), ("NaN", .real "nan"),
    ("Infinity", .real "inf"), ("-Infinity", .real "-inf")].map fun (word, value) => (word.toList, value)

/-- The constant at the front of a text, and the text behind it. -/
def constant? (text : Text) : Option (Value × Text) :=
  (constants.find? fun entry => entry.1.isPrefixOf text).map fun entry =>
    (entry.2, text.drop entry.1.length)

mutual

/-- The value at the front of a text. -/
def value : Nat → Text → Except DecodeError (Value × Text)
  | 0, text => stop .expectingValue text
  | fuel + 1, text =>
    -- Constants are tried first, since one of them begins with a minus sign.
    match constant? text with
    | some found => .ok found
    | none =>
      match text with
      | '"' :: rest => do
        let (found, rest) ← string rest
        return (.text found, rest)
      | '\x7b' :: rest =>
        match skipBlanks rest with
        | '\x7d' :: rest => .ok (.dict [], rest)
        | rest => members fuel [] rest
      | '[' :: rest =>
        match skipBlanks rest with
        | ']' :: rest => .ok (.list [], rest)
        | rest => elements fuel [] rest
      | '-' :: rest => number true text rest
      | rest => number false text rest

/-- The members of an object from the next key on. -/
def members : Nat → List (Value × Value) → Text → Except DecodeError (Value × Text)
  | 0, _, text => stop .expectingKey text
  | fuel + 1, found, text =>
    match text with
    | '"' :: rest => do
      let (key, rest) ← string rest
      match skipBlanks rest with
      | ':' :: rest => do
        let (member, rest) ← value fuel (skipBlanks rest)
        let found := found ++ [(.text key, member)]
        match skipBlanks rest with
        -- A key that comes again keeps its first place and takes the last value.
        | '\x7d' :: rest => return (.ofEntries found, rest)
        | ',' :: rest => members fuel found (skipBlanks rest)
        | rest => stop .expectingComma rest
      | rest => stop .expectingColon rest
    | rest => stop .expectingKey rest

/-- The elements of an array from the next one on. -/
def elements : Nat → List Value → Text → Except DecodeError (Value × Text)
  | 0, _, text => stop .expectingValue text
  | fuel + 1, found, text => do
    let (element, rest) ← value fuel text
    let found := found ++ [element]
    match skipBlanks rest with
    | ']' :: rest => return (.list found, rest)
    | ',' :: rest => elements fuel found (skipBlanks rest)
    | rest => stop .expectingComma rest

end

/-- Reads a whole text as one value. -/
def decode (text : Text) : Except DecodeError Value :=
  -- Every call takes a character, so the calls are bounded by the length.
  match text with
  | c :: _ =>
    if c.toNat = 0xFEFF then .error (.fault .byteOrderMark text.length) else whole
  | [] => whole
where
  /-- The value with nothing but blanks around it. -/
  whole : Except DecodeError Value := do
    let (found, rest) ← value (text.length + 1) (skipBlanks text)
    let rest := skipBlanks rest
    if rest.isEmpty then return found
    else .error (.fault .extraData rest.length)

/-- The text of a value without parts. -/
def scalar : Value → Text
  | .null => "null"
  | .bool true => "true"
  | .bool false => "false"
  | .int value => Text.ofInt value
  | .real shortest =>
    -- Numbers that are not finite are spelled in another way than elsewhere.
    if shortest = ("nan" : Text) then "NaN"
    else if shortest = ("inf" : Text) then "Infinity"
    else if shortest = ("-inf" : Text) then "-Infinity"
    else shortest
  | .text value => Literal.quote value
  | .list _ => "[]"
  | .dict _ => "\x7b\x7d"

/-- The text of a key. -/
def key : Value → Text
  | .text value => Literal.quote value
  | other => '"' :: scalar other ++ ['"']

/-- A line break and the indent of a depth. -/
def lineBreak (depth : Nat) : Text :=
  '\n' :: List.replicate (2 * depth) ' '

mutual

/-- The text of a value with its parts on lines of their own, two columns deeper. -/
def encode (depth : Nat) : Value → Text
  | .list (item :: items) =>
    '[' :: lineBreak (depth + 1) ++ encode (depth + 1) item ++ encodeItems (depth + 1) items
      ++ lineBreak depth ++ [']']
  | .dict (entry :: entries) =>
    '\x7b' :: lineBreak (depth + 1) ++ encodeEntry (depth + 1) entry ++ encodeEntries (depth + 1) entries
      ++ lineBreak depth ++ ['\x7d']
  | other => scalar other

/-- The items of a list behind its first, each behind a comma. -/
def encodeItems (depth : Nat) : List Value → Text
  | [] => []
  | item :: items => ',' :: lineBreak depth ++ encode depth item ++ encodeItems depth items

/-- A key with its value. -/
def encodeEntry (depth : Nat) : Value × Value → Text
  | (name, value) => key name ++ ": " ++ encode depth value

/-- The entries of a dictionary behind its first, each behind a comma. -/
def encodeEntries (depth : Nat) : List (Value × Value) → Text
  | [] => []
  | entry :: entries => ',' :: lineBreak depth ++ encodeEntry depth entry ++ encodeEntries depth entries

end

end AssetCatalog.Json
