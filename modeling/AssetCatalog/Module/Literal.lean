import AssetCatalog.Text

/-! Quoted text: the string literals of the emitted module, which are those of JSON as well. -/

namespace AssetCatalog.Literal

/-- The hexadecimal digit of a number below sixteen, in lower case. -/
def hexDigit (n : Nat) : Char :=
  Nat.digitChar n

/-- The characters that stand for one character between the quotes. -/
def escapeChar (c : Char) : Text :=
  -- Five controls have letters of their own, and every other one is given by its number.
  if c = '"' then ['\\', '"']
  else if c = '\\' then ['\\', '\\']
  else if c = '\n' then ['\\', 'n']
  else if c = '\r' then ['\\', 'r']
  else if c = '\t' then ['\\', 't']
  else if c.toNat = 0x08 then ['\\', 'b']
  else if c.toNat = 0x0C then ['\\', 'f']
  else if c.toNat < 0x20 then
    ['\\', 'u', '0', '0', hexDigit (c.toNat / 16), hexDigit (c.toNat % 16)]
  else [c]

/-- The text between the quotes of a literal. -/
def escape (value : Text) : Text :=
  value.flatMap escapeChar

/-- The literal of a text. -/
def quote (value : Text) : Text :=
  '"' :: escape value ++ ['"']

end AssetCatalog.Literal
