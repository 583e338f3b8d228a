import AssetCatalog.Unicode.Category

/-! Texts in quotes as messages show them, on one line and with nothing invisible in them. -/

namespace AssetCatalog.Text

/-- The lowest hexadecimal digits of a number, as many as asked for. -/
def hexDigits (n : Nat) : Nat → Text
  | 0 => []
  | count + 1 => hexDigits (n / 16) count ++ [Nat.digitChar (n % 16)]

/-- A character between quotes of a kind. -/
def shownChar (quote c : Char) : Text :=
  -- What cannot be printed is shown by its number, with as few digits as its size needs.
  if c = quote ∨ c = '\\' then ['\\', c]
  else if c = '\n' then ['\\', 'n']
  else if c = '\r' then ['\\', 'r']
  else if c = '\t' then ['\\', 't']
  else if Unicode.isPrintable c then [c]
  else if c.toNat < 0x100 then '\\' :: 'x' :: hexDigits c.toNat 2
  else if c.toNat < 0x10000 then '\\' :: 'u' :: hexDigits c.toNat 4
  else '\\' :: 'U' :: hexDigits c.toNat 8

/-- The text in single quotes, or in double ones where it holds single quotes only. -/
def shown (text : Text) : Text :=
  let quote := if text.contains '\'' && !text.contains '"' then '"' else '\''
  quote :: text.flatMap (shownChar quote) ++ [quote]

end AssetCatalog.Text
