import AssetCatalog.Text

/-! Regular expressions as they are written: their syntax trees, options and widths. -/

namespace AssetCatalog

/-- The options that change what a regular expression matches. -/
structure RegexOptions where
  /-- Letters match without regard to case. -/
  ignoreCase : Bool := false
  /-- The line anchors match at every line. -/
  multiline : Bool := false
  /-- The dot matches line feeds too. -/
  dotAll : Bool := false
  /-- White space and comments in the pattern are skipped. -/
  verbose : Bool := false
  /-- Character classes and case know ASCII alone. -/
  ascii : Bool := false
  /-- Character classes and case are those of Unicode, said outright. -/
  unicode : Bool := false
  /-- Repetition is not supported. -/
  template : Bool := false
deriving DecidableEq, Repr

namespace RegexOptions

/-- The options that are set in either. -/
def union (a b : RegexOptions) : RegexOptions where
  ignoreCase := a.ignoreCase || b.ignoreCase
  multiline := a.multiline || b.multiline
  dotAll := a.dotAll || b.dotAll
  verbose := a.verbose || b.verbose
  ascii := a.ascii || b.ascii
  unicode := a.unicode || b.unicode
  template := a.template || b.template

/-- Whether an option is set in both. -/
def overlaps (a b : RegexOptions) : Bool :=
  (a.ignoreCase && b.ignoreCase) || (a.multiline && b.multiline) || (a.dotAll && b.dotAll)
    || (a.verbose && b.verbose) || (a.ascii && b.ascii) || (a.unicode && b.unicode)
    || (a.template && b.template)

/-- The options inside a group that sets some and clears others. -/
def within (outer set cleared : RegexOptions) : RegexOptions where
  -- Choosing one alphabet drops the other.
  ignoreCase := (outer.ignoreCase || set.ignoreCase) && !cleared.ignoreCase
  multiline := (outer.multiline || set.multiline) && !cleared.multiline
  dotAll := (outer.dotAll || set.dotAll) && !cleared.dotAll
  verbose := (outer.verbose || set.verbose) && !cleared.verbose
  ascii := set.ascii || (outer.ascii && !set.unicode)
  unicode := set.unicode || (outer.unicode && !set.ascii)
  template := outer.template

end RegexOptions

/-- The classes of characters that have an escape. -/
inductive CharClass where
  /-- Decimal digits. -/
  | digit
  /-- White space. -/
  | blank
  /-- Letters, numbers and the underscore. -/
  | word
deriving DecidableEq, Repr

/-- What a set of characters lists, by code point. -/
inductive ClassItem where
  /-- One code point. -/
  | code (code : Nat)
  /-- All code points from the first to the last. -/
  | range (first last : Nat)
  /-- A class, or all that it leaves out. -/
  | category (kind : CharClass) (negated : Bool)
deriving DecidableEq, Repr

/-- The places that match without taking a character. -/
inductive Anchor where
  /-- The start of the text, or of any line in multi-line matching. -/
  | lineStart
  /-- The end of the text or the place before its last line feed, or the end of any line. -/
  | lineEnd
  /-- The start of the text. -/
  | textStart
  /-- The end of the text. -/
  | textEnd
  /-- A place between a word character and none. -/
  | wordBoundary
  /-- A place inside a word or outside all words. -/
  | notWordBoundary
deriving DecidableEq, Repr

/-- In which order a repetition tries its counts. -/
inductive Greed where
  /-- As many as possible first. -/
  | greedy
  /-- As few as possible first. -/
  | lazy
  /-- As many as possible and no other count. -/
  | possessive
deriving DecidableEq, Repr

/-- A regular expression. -/
inductive Regex where
  /-- The empty text. -/
  | empty
  /-- One code point. -/
  | code (code : Nat)
  /-- Any character but one code point. -/
  | notCode (code : Nat)
  /-- Any character, line feeds only where the options say so. -/
  | any
  /-- A character that the items list, or that they do not list. -/
  | oneOf (negated : Bool) (items : List ClassItem)
  /-- A place. -/
  | anchor (anchor : Anchor)
  /-- One expression and then another. -/
  | seq (first second : Regex)
  /-- Either of two expressions, the first one tried first. -/
  | either (first second : Regex)
  /-- An expression whose match is remembered under a number. -/
  | group (number : Nat) (body : Regex)
  /-- An expression under changed options. -/
  | withOptions (set cleared : RegexOptions) (body : Regex)
  /-- An expression whose first match is final. -/
  | atomic (body : Regex)
  /-- The text ahead matches, or does not. -/
  | ahead (negated : Bool) (body : Regex)
  /-- The text behind matches, or does not; its width is missing where it is not fixed. -/
  | behind (negated : Bool) (width : Option Nat) (body : Regex)
  /-- The text that a group matched. -/
  | backreference (number : Nat)
  /-- One expression if a group has matched, and another one if not. -/
  | conditional (number : Nat) (present absent : Regex)
  /-- An expression several times over; without a greatest count there is no limit. -/
  | repeated (greed : Greed) (least : Nat) (most : Option Nat) (body : Regex)
deriving DecidableEq, Repr

namespace Regex

/-- The least and the greatest number of characters that an expression takes; none means unlimited. -/
abbrev Width := Nat × Option Nat

/-- The width of an expression, given those of the groups that are closed. -/
def width (groups : Nat → Width) : Regex → Width
  | empty => (0, some 0)
  | code _ | notCode _ | any | oneOf _ _ => (1, some 1)
  | anchor _ | ahead _ _ | behind _ _ _ => (0, some 0)
  | seq a b =>
    let (low, high) := a.width groups
    let (low', high') := b.width groups
    (low + low', do return (← high) + (← high'))
  | either a b =>
    let (low, high) := a.width groups
    let (low', high') := b.width groups
    (min low low', do return max (← high) (← high'))
  | group _ body | withOptions _ _ body | atomic body => body.width groups
  | backreference number => groups number
  | conditional _ present absent =>
    let (low, high) := present.width groups
    let (low', high') := absent.width groups
    (min low low', do return max (← high) (← high'))
  | repeated _ least most body =>
    -- What takes no character, or is not repeated at all, takes none without a limit either.
    let (low, high) := body.width groups
    (low * least, if high = some 0 ∨ most = some 0 then some 0 else do return (← high) * (← most))

/-- The greatest number of characters that a look behind goes back. -/
def farthestBehind : Nat := 4294967295

/-- The width that an expression always takes, where it is fixed and within the reach of a look behind. -/
def fixedWidth? (groups : Nat → Width) (regex : Regex) : Option Nat :=
  match regex.width groups with
  | (low, some high) => if low = high ∧ low ≤ farthestBehind then some low else none
  | (_, none) => none

/-- Whether every look behind has a fixed width, and nothing is repeated in a template. -/
def isSupported (template : Bool) : Regex → Bool
  | empty | code _ | notCode _ | any | oneOf _ _ | anchor _ | backreference _ => true
  | seq a b | either a b | conditional _ a b => a.isSupported template && b.isSupported template
  | group _ body | withOptions _ _ body | atomic body | ahead _ body => body.isSupported template
  | behind _ width body => width.isSome && body.isSupported template
  | repeated _ _ _ body => !template && body.isSupported template

end Regex

end AssetCatalog
