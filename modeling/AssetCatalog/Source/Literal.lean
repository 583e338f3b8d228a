import AssetCatalog.Source.Fault
import AssetCatalog.Unicode.Name

/-! String literals: what the characters between the quotes stand for. -/

namespace AssetCatalog.Source.Literal

/-- The value of a hexadecimal digit. -/
def hexValue? (c : Char) : Option Nat :=
  if c.isDigit then some (c.toNat - '0'.toNat)
  else if 'a' ≤ c ∧ c ≤ 'f' then some (c.toNat - 'a'.toNat + 10)
  else if 'A' ≤ c ∧ c ≤ 'F' then some (c.toNat - 'A'.toNat + 10)
  else none

/-- The value of hexadecimal digits, the first one the most significant. -/
def hexNumber? (digits : List Char) : Option Nat :=
  digits.foldlM (fun value c => (hexValue? c).map (16 * value + ·)) 0

/-- The character whose number is given by hexadecimal digits. -/
def numbered (digits : List Char) : Except Cause Char :=
  match hexNumber? digits with
  | some code => if code < 0x110000 then .ok (Char.ofNat code) else .error .brokenEscape
  | none => .error .brokenEscape

/-- Whether a character is an octal digit. -/
def isOctal (c : Char) : Bool :=
  '0' ≤ c && c ≤ '7'

/-- The character whose number is given by octal digits. -/
def octal (digits : List Char) : Char :=
  Char.ofNat (digits.foldl (fun value c => 8 * value + (c.toNat - '0'.toNat)) 0)

/-- The character that a letter behind a backslash stands for. -/
def control? : Char → Option Char
  | '\\' => some '\\'
  | '\'' => some '\''
  | '"' => some '"'
  | 'a' => some (Char.ofNat 0x07)
  | 'b' => some (Char.ofNat 0x08)
  | 'f' => some (Char.ofNat 0x0C)
  | 'n' => some '\n'
  | 'r' => some '\r'
  | 't' => some '\t'
  | 'v' => some (Char.ofNat 0x0B)
  | _ => none

mutual

/-- The text that the characters between the quotes stand for. -/
def decode : Text → Except Cause Text
  -- A backslash that starts no escape stands for itself, and one at the end of a line joins the lines.
  | [] => .ok []
  | '\\' :: '\n' :: rest => decode rest
  | '\\' :: 'x' :: a :: b :: rest => return (← numbered [a, b]) :: (← decode rest)
  | '\\' :: 'u' :: a :: b :: c :: d :: rest => return (← numbered [a, b, c, d]) :: (← decode rest)
  | '\\' :: 'U' :: a :: b :: c :: d :: e :: f :: g :: h :: rest =>
    return (← numbered [a, b, c, d, e, f, g, h]) :: (← decode rest)
  | '\\' :: 'N' :: '\x7b' :: rest => decodeNamed [] rest
  | '\\' :: letter :: rest =>
    if ['x', 'u', 'U', 'N'].contains letter then .error .brokenEscape
    else if isOctal letter then
      match rest with
      | second :: third :: rest' =>
        if isOctal second then
          if isOctal third then return octal [letter, second, third] :: (← decode rest')
          else return octal [letter, second] :: (← decode (third :: rest'))
        else return octal [letter] :: (← decode (second :: third :: rest'))
      | [second] =>
        if isOctal second then return [octal [letter, second]]
        else return [octal [letter], second]
      | [] => return [octal [letter]]
    else match control? letter with
      | some c => return c :: (← decode rest)
      | none => return '\\' :: letter :: (← decode rest)
  | c :: rest => return c :: (← decode rest)

/-- The text behind the brace that opens the name of a character; what is found of the name is reversed. -/
def decodeNamed (found : Text) : Text → Except Cause Text
  | [] => .error .brokenEscape
  | '\x7d' :: rest =>
    match Unicode.named? found.reverse with
    | some c => return c :: (← decode rest)
    | none => .error .brokenEscape
  | c :: rest => decodeNamed (c :: found) rest

end

/-- Checks the escapes in a string of bytes, of which only one can be incomplete. -/
def checkBytes : Text → Except Cause Unit
  | [] => .ok ()
  | '\\' :: 'x' :: a :: b :: rest =>
    if (hexNumber? [a, b]).isSome then checkBytes rest else .error .brokenEscape
  | '\\' :: letter :: rest => if letter = 'x' then .error .brokenEscape else checkBytes rest
  | _ :: rest => checkBytes rest

end AssetCatalog.Source.Literal
