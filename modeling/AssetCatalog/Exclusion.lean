import AssetCatalog.Regex.Matcher
import AssetCatalog.Regex.Parser

/-! Exclusion patterns: the regular expressions among some texts, and the names in which one occurs. -/

namespace AssetCatalog

/-- A text that is a regular expression, ready for matching. -/
structure Exclusion where
  /-- The text. -/
  text : Text
  /-- What the text says. -/
  pattern : Regex.Pattern
deriving DecidableEq, Repr

namespace Exclusion

/-- Whether the pattern occurs in a name. -/
def occursIn (name : Text) (exclusion : Exclusion) : Bool :=
  exclusion.pattern.regex.occursIn exclusion.pattern.options name

/-- Whether one of the patterns occurs in a name. -/
def matchesAny (exclusions : List Exclusion) (name : Text) : Bool :=
  exclusions.any (occursIn name)

/-- Reads a text as a regular expression, unless the machine gives up on it because it is nested too deeply. -/
def read (overflow? : Text → Option Text) (text : Text) : Except Regex.ParseError Regex.Pattern :=
  match overflow? text with
  | some message => .error (.nestedTooDeeply message)
  | none => Regex.parse text

/-- The regular expressions among some texts; one beyond a limit of the format or the machine refuses them all. -/
def compile (overflow? : Text → Option Text) : List Text → Except Regex.ParseError (List Exclusion)
  | [] => .ok []
  | text :: texts =>
    -- A text that is merely malformed is left out.
    match read overflow? text with
    | .ok pattern => do return ⟨text, pattern⟩ :: (← compile overflow? texts)
    | .error .malformed => compile overflow? texts
    | .error other => .error other

end Exclusion

end AssetCatalog
