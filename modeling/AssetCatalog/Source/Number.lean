import AssetCatalog.Source.Fault

/-! The spelling of numbers: where one ends, and what makes it malformed. -/

namespace AssetCatalog.Source

/-- Whether a character may stand in a name, or is not ASCII and has still to be looked at. -/
def isWordCharacter (c : Char) : Bool :=
  c.isAlphanum || c == '_' || 0x80 ≤ c.toNat

/-- Whether a digit belongs to a base. -/
def isDigitOf (base : Nat) (c : Char) : Bool :=
  if base = 16 then c.isDigit || ('a' ≤ c && c ≤ 'f') || ('A' ≤ c && c ≤ 'F')
  else '0' ≤ c && c.toNat < '0'.toNat + base

/-- The text behind digits in which single underscores may stand, or nothing behind a misplaced underscore. -/
def afterDigits? (isDigit : Char → Bool) : Text → Option Text
  | [] => some []
  | c :: rest =>
    if isDigit c then afterDigits? isDigit rest
    else if c = '_' then if rest.head?.any isDigit then afterDigits? isDigit rest else none
    else some (c :: rest)

/-- Whether a text starts with a word that ends there. -/
def startsWithWord (word text : Text) : Bool :=
  Text.startsWith text word && !(text.drop word.length).head?.any isWordCharacter

/-- Whether a text may follow a number directly: no name does, and some reserved words do. -/
def mayFollowNumber (rest : Text) : Bool :=
  !rest.head?.any isWordCharacter
    || ["and", "else", "for", "or"].any (fun (word : String) => startsWithWord word.toList rest)
    || ["if", "in", "is"].any (fun (word : String) => Text.startsWith rest word.toList)

/-- The rest of a number once its digits are over. -/
def endNumber (kind rest : Text) : Except Cause Text :=
  if mayFollowNumber rest then .ok rest else .error (.malformedNumber kind)

/-- The rest behind the digits of a base, which stand behind a zero and a letter. -/
def afterBase (base : Nat) (kind rest : Text) : Except Cause Text :=
  -- One underscore may stand in front of the first digit, and a greater decimal digit has a message of its own.
  let digits := match rest with
    | '_' :: digits => digits
    | digits => digits
  let wrong (rest : Text) : Option Char := rest.head?.filter fun c => c.isDigit && base < 10
  if !digits.head?.any (isDigitOf base) then
    match wrong digits with
    | some c => .error (.wrongDigit c kind)
    | none => .error (.malformedNumber kind)
  else match afterDigits? (isDigitOf base) digits with
    | none => .error (.malformedNumber kind)
    | some rest =>
      match wrong rest with
      | some c => .error (.wrongDigit c kind)
      | none => endNumber kind rest

/-- The rest behind decimal digits. -/
def afterDecimal (rest : Text) : Except Cause Text :=
  match afterDigits? Char.isDigit rest with
  | some rest => .ok rest
  | none => .error (.malformedNumber "decimal")

/-- The rest behind the letter of an imaginary number, or behind any other number. -/
def afterImaginary (rest : Text) : Except Cause Text :=
  match rest with
  | 'j' :: rest | 'J' :: rest => endNumber "imaginary" rest
  | rest => endNumber "decimal" rest

/-- The rest behind an exponent, if there is one, and behind what may follow it. -/
def afterExponent (rest : Text) : Except Cause Text :=
  -- A letter that no digit follows may start a reserved word.
  match rest with
  | e :: digits =>
    if e = 'e' ∨ e = 'E' then
      match digits with
      | sign :: digits =>
        if sign = '+' ∨ sign = '-' then
          if digits.head?.any Char.isDigit then do afterImaginary (← afterDecimal digits)
          else .error (.malformedNumber "decimal")
        else if sign.isDigit then do afterImaginary (← afterDecimal (sign :: digits))
        else endNumber "decimal" rest
      | [] => endNumber "decimal" rest
    else afterImaginary rest
  | [] => .ok []

/-- The rest behind a fraction, whose point has been passed. -/
def afterFraction (rest : Text) : Except Cause Text := do
  if rest.head?.any Char.isDigit then afterExponent (← afterDecimal rest) else afterExponent rest

/-- The rest behind a point with its fraction, or behind no point, and behind an exponent. -/
def afterPoint (rest : Text) : Except Cause Text :=
  match rest with
  | '.' :: rest => afterFraction rest
  | rest => afterExponent rest

/-- The rest behind zeros, between which single underscores may stand, or nothing behind a misplaced one. -/
def afterZeros? : Text → Option Text
  | '0' :: rest => afterZeros? rest
  | '_' :: rest =>
    if rest.head? = some '0' then afterZeros? rest
    else if rest.head?.any Char.isDigit then some rest
    else none
  | rest => some rest

/-- The rest behind a number that starts with zero. -/
def afterLeadingZero (rest : Text) : Except Cause Text :=
  -- Only a whole number other than zero is refused for the zeros in front.
  match afterZeros? rest with
  | none => .error (.malformedNumber "decimal")
  | some rest =>
    if rest.head?.any Char.isDigit then
      match afterDecimal rest with
      | .error cause => .error cause
      | .ok rest =>
        if rest.head?.any (fun c => ['.', 'e', 'E', 'j', 'J'].contains c) then afterPoint rest
        else .error .leadingZeros
    else afterPoint rest

/-- The rest behind the number at the front of a text, which starts with a digit or with a point and a digit. -/
def afterNumber (text : Text) : Except Cause Text :=
  match text with
  | '.' :: rest => afterFraction rest
  | '0' :: letter :: rest =>
    if letter = 'x' ∨ letter = 'X' then afterBase 16 "hexadecimal" rest
    else if letter = 'o' ∨ letter = 'O' then afterBase 8 "octal" rest
    else if letter = 'b' ∨ letter = 'B' then afterBase 2 "binary" rest
    else afterLeadingZero (letter :: rest)
  | text => do afterPoint (← afterDecimal text)

/-- Whether a spelling is that of an imaginary number. -/
def isImaginary (spelling : Text) : Bool :=
  match spelling.getLast? with
  | some last => last == 'j' || last == 'J'
  | none => false

/-- The number of digits of a decimal whole number, and nothing for a number of any other kind. -/
def decimalDigits (spelling : Text) : Nat :=
  if spelling.all (fun c => c.isDigit || c == '_') then spelling.countP Char.isDigit else 0

end AssetCatalog.Source
