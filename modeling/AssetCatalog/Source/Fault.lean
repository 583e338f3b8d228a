import AssetCatalog.Text

/-! What makes a source no program, with the wording of each cause. -/

namespace AssetCatalog.Source

/-- Why a source is no program. -/
inductive Cause where
  /-- The source holds a null character. -/
  | nullCharacter
  /-- A token stands where none of its kind may stand. -/
  | unexpectedToken
  /-- A line is indented for no reason. -/
  | unexpectedIndent
  /-- A line goes back to an indentation that no open block has. -/
  | unmatchedDedent
  /-- Tabs and blanks are mixed so that the indentation depends on the width of a tab. -/
  | inconsistentTabs
  /-- Blocks are nested too deeply. -/
  | tooManyIndents
  /-- Brackets are nested too deeply. -/
  | tooManyBrackets
  /-- A bracket is closed that is not open. -/
  | unmatchedBracket (bracket : Char)
  /-- A bracket is closed by one of another kind. -/
  | mismatchedBracket (closing opening : Char) (line : Option Nat)
  /-- A bracket is never closed. -/
  | unclosedBracket (bracket : Char)
  /-- A string does not end on its line. -/
  | unterminatedString (line : Nat)
  /-- A string over several lines does not end. -/
  | unterminatedBlock (line : Nat)
  /-- A backslash is not the last thing on its line. -/
  | afterContinuation
  /-- The source ends within a line that was to be continued. -/
  | unexpectedEnd
  /-- A number of some kind is misspelled. -/
  | malformedNumber (kind : Text)
  /-- A digit is too great for the base of a number. -/
  | wrongDigit (digit : Char) (kind : Text)
  /-- A whole number starts with zeros. -/
  | leadingZeros
  /-- A whole number has too many digits. -/
  | tooManyDigits (digits : Nat)
  /-- A character has no place in a source. -/
  | strayCharacter (character : Char) (printable : Bool)
  /-- A string of bytes holds a character that is no byte of its own. -/
  | wideByte
  /-- Strings of bytes and of characters stand side by side. -/
  | mixedStrings
  /-- An escape in a string is incomplete or names no character. -/
  | brokenEscape
  /-- The fields of an interpolated string are malformed. -/
  | brokenField (reason : Text)
  /-- A complex number is spelled with parts of the wrong kind. -/
  | wrongPart (kind : Text)
deriving DecidableEq, Repr

/-- A cause with the line to which it belongs. -/
structure Fault where
  /-- The cause. -/
  cause : Cause
  /-- The line, counted from one. -/
  line : Nat
deriving DecidableEq, Repr

/-- The number of a character as in the standard, with four digits at least. -/
def codePointText (c : Char) : Text :=
  let digits := (Nat.toDigits 16 c.toNat).map Char.toUpper
  List.replicate (4 - digits.length) '0' ++ digits

/-- The wording of a cause. -/
def Cause.message : Cause → Text
  | nullCharacter => "source code string cannot contain null bytes"
  | unexpectedToken => "invalid syntax"
  | unexpectedIndent => "unexpected indent"
  | unmatchedDedent => "unindent does not match any outer indentation level"
  | inconsistentTabs => "inconsistent use of tabs and spaces in indentation"
  | tooManyIndents => "too many levels of indentation"
  | tooManyBrackets => "too many nested parentheses"
  | unmatchedBracket bracket => "unmatched '" ++ [bracket] ++ "'"
  | mismatchedBracket closing opening line =>
    let place : Text := match line with
      | some line => " on line " ++ Text.ofNat line
      | none => []
    "closing parenthesis '" ++ [closing] ++ "' does not match opening parenthesis '" ++ [opening] ++ "'" ++ place
  | unclosedBracket bracket => "'" ++ [bracket] ++ "' was never closed"
  | unterminatedString line => "unterminated string literal (detected at line " ++ Text.ofNat line ++ ")"
  | unterminatedBlock line =>
    "unterminated triple-quoted string literal (detected at line " ++ Text.ofNat line ++ ")"
  | afterContinuation => "unexpected character after line continuation character"
  | unexpectedEnd => "unexpected EOF while parsing"
  | malformedNumber kind => "invalid " ++ kind ++ " literal"
  | wrongDigit digit kind => "invalid digit '" ++ [digit] ++ "' in " ++ kind ++ " literal"
  | leadingZeros =>
    "leading zeros in decimal integer literals are not permitted; use an 0o prefix for octal integers"
  | tooManyDigits digits =>
    "Exceeds the limit (4300 digits) for integer string conversion: value has " ++ Text.ofNat digits
      ++ " digits; use sys.set_int_max_str_digits() to increase the limit"
      ++ " - Consider hexadecimal for huge integer literals to avoid decimal conversion limits."
  | strayCharacter c true => "invalid character '" ++ [c] ++ "' (U+" ++ codePointText c ++ ")"
  | strayCharacter c false => "invalid non-printable character U+" ++ codePointText c
  | wideByte => "bytes can only contain ASCII literal characters"
  | mixedStrings => "cannot mix bytes and nonbytes literals"
  | brokenEscape => "(unicode error) malformed character escape"
  | brokenField reason => "f-string: " ++ reason
  | wrongPart kind => kind ++ " number required in complex literal"

end AssetCatalog.Source
