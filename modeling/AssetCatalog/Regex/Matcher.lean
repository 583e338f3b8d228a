import AssetCatalog.Regex.Basic
import AssetCatalog.Unicode.Case

/-! Matching a regular expression: the alternatives are tried in order until the rest matches too. -/

namespace AssetCatalog

namespace CharClass

/-- Whether a character belongs to a class, among the ASCII characters alone or all of Unicode. -/
def holds (ascii : Bool) (c : Char) : CharClass → Bool
  | digit => if ascii then c.isDigit else Unicode.isDecimalDigit c
  | blank =>
    if ascii then c == ' ' || (0x09 ≤ c.toNat && c.toNat ≤ 0x0D) else Unicode.isBlank c
  | word => c == '_' || if ascii then c.isAlphanum else Unicode.isLetterOrNumber c

end CharClass

namespace Regex

/-- The letter that a character is compared by when case is ignored. -/
def foldCase (ascii : Bool) (c : Char) : Char :=
  if ascii then c.toLower else Unicode.lowerLetter c

/-- Whether two characters are the same when case is ignored. -/
def sameIgnoringCase (ascii : Bool) (a b : Char) : Bool :=
  if ascii then a.toLower == b.toLower else Unicode.sameLetter a b

/-- Whether a code point stands for a character under the options. -/
def codeMatches (options : RegexOptions) (value : Nat) (c : Char) : Bool :=
  -- A code point without a character, such as a lone surrogate, matches nothing.
  c.toNat == value || (options.ignoreCase && (Char.ofNat value).toNat == value
    && sameIgnoringCase options.ascii (Char.ofNat value) c)

/-- The upper-case form of a letter where that is a single character. -/
def upperLetter (c : Char) : Char :=
  match Unicode.upper c with
  | u :: _ => u
  | [] => c

/-- Whether a range lists a character when case is ignored. -/
def rangeMatches (ascii : Bool) (first last : Nat) (c : Char) : Bool :=
  -- Code points of the first plane are compared one by one, and all others by their two forms.
  let folded := (foldCase ascii c).toNat
  (first ≤ folded && folded ≤ last)
    || (0xFFFF < last && first ≤ (upperLetter (foldCase ascii c)).toNat
      && (upperLetter (foldCase ascii c)).toNat ≤ last)
    || (List.range' first (min (last + 1) 0x10000 - first)).any fun value =>
        (Char.ofNat value).toNat == value && sameIgnoringCase ascii (Char.ofNat value) c

/-- Whether an item of a set lists a character under the options. -/
def itemMatches (options : RegexOptions) (c : Char) : ClassItem → Bool
  | .code value =>
    if options.ignoreCase && 0xFFFF < value then (foldCase options.ascii c).toNat == value
    else codeMatches options value c
  | .range first last =>
    if options.ignoreCase then rangeMatches options.ascii first last c
    else first ≤ c.toNat && c.toNat ≤ last
  | .category kind negated => kind.holds options.ascii c != negated

/-- A place in the text and the marks that the groups have left: two for each, start and end. -/
structure Place where
  /-- The number of characters before the place. -/
  position : Nat
  /-- The positions of the marks, the latest first. -/
  marks : List (Nat × Nat)
deriving DecidableEq, Repr

/-- The start and the end of what a group matched, where both are known and in order. -/
def Place.group? (place : Place) (number : Nat) : Option (Nat × Nat) :=
  match place.marks.lookup (2 * number), place.marks.lookup (2 * number + 1) with
  | some start, some stop => if start ≤ stop then some (start, stop) else none
  | _, _ => none

/-- The place with one more mark. -/
def Place.mark (place : Place) (index : Nat) : Place :=
  { place with marks := (index, place.position) :: place.marks }

/-- What has to match behind an expression. -/
abbrev Rest := Place → Option Place

/-- Whether a word character lies at a position. -/
def isWordAt (ascii : Bool) (text : Array Char) (position : Nat) : Bool :=
  match text[position]? with
  | some c => CharClass.word.holds ascii c
  | none => false

/-- Whether an anchor matches at a position. -/
def anchorMatches (options : RegexOptions) (text : Array Char) (position : Nat) : Anchor → Bool
  | .lineStart => position == 0 || (options.multiline && text[position - 1]? == some '\n')
  | .lineEnd =>
    position == text.size
      || (text[position]? == some '\n' && (options.multiline || position + 1 == text.size))
  | .textStart => position == 0
  | .textEnd => position == text.size
  | .wordBoundary =>
    (0 < position && isWordAt options.ascii text (position - 1)) != isWordAt options.ascii text position
  | .notWordBoundary =>
    -- An empty text has no places of either kind.
    text.size != 0 &&
      (0 < position && isWordAt options.ascii text (position - 1)) == isWordAt options.ascii text position

/-- One character that passes a test, and the rest behind it. -/
def takeOne (text : Array Char) (test : Char → Bool) (rest : Rest) (place : Place) : Option Place :=
  match text[place.position]? with
  | some c => if test c then rest { place with position := place.position + 1 } else none
  | none => none

/-- Repeats a step as often as possible, and then fewer times. -/
def repeatGreedy (step : Rest → Rest) (least : Nat) (most : Option Nat) (rest : Rest) :
    Nat → Nat → Option Nat → Rest
  -- Past the least count, a step that starts where the one before it started is not tried again.
  | 0, _, _, _ => none
  | fuel + 1, count, last, place =>
    if count < least then step (repeatGreedy step least most rest fuel (count + 1) last) place
    else
      let again :=
        if (match most with | some m => count < m | none => true) && last != some place.position then
          step (repeatGreedy step least most rest fuel (count + 1) (some place.position)) place
        else none
      again.or (rest place)

/-- Repeats a step as seldom as possible, and then more often. -/
def repeatLazy (step : Rest → Rest) (least : Nat) (most : Option Nat) (rest : Rest) :
    Nat → Nat → Option Nat → Rest
  | 0, _, _, _ => none
  | fuel + 1, count, last, place =>
    if count < least then step (repeatLazy step least most rest fuel (count + 1) last) place
    else match rest place with
      | some done => some done
      | none =>
        -- A step that starts where the one before it started would be repeated for ever.
        if (match most with | some m => count < m | none => true) && last != some place.position then
          step (repeatLazy step least most rest fuel (count + 1) (some place.position)) place
        else none

/-- Repeats a step as often as possible, each time by its first match. -/
def repeatPossessive (step : Rest → Rest) (least : Nat) (most : Option Nat) :
    Nat → Nat → Option Nat → Place → Option Place
  | 0, _, _, _ => none
  | fuel + 1, count, last, place =>
    if count < least then
      match step some place with
      | some next => repeatPossessive step least most fuel (count + 1) last next
      | none => none
    else if (match most with | some m => count < m | none => true) && last != some place.position then
      -- The first match of a step is kept whatever comes behind it.
      match step some place with
      | some next => repeatPossessive step least most fuel (count + 1) (some place.position) next
      | none => some place
    else some place

/-- Whether the characters from a position on are those of an earlier stretch. -/
def sameStretch (text : Array Char) (same : Char → Char → Bool) (position start : Nat) : Nat → Bool
  | 0 => true
  | length + 1 =>
    match text[start]?, text[position]? with
    | some a, some b => same a b && sameStretch text same (position + 1) (start + 1) length
    | _, _ => false

/-- Matches an expression at a place and then the rest; the first way that works is the answer. -/
def run (text : Array Char) (options : RegexOptions) : Regex → Rest → Rest
  | empty, rest => rest
  | code value, rest => takeOne text (codeMatches options value) rest
  | notCode value, rest => takeOne text (fun c => !codeMatches options value c) rest
  | any, rest => takeOne text (fun c => options.dotAll || c != '\n') rest
  | oneOf negated items, rest => takeOne text (fun c => items.any (itemMatches options c) != negated) rest
  | anchor place, rest => fun here =>
    if anchorMatches options text here.position place then rest here else none
  | seq a b, rest => run text options a (run text options b rest)
  | either a b, rest => fun here => (run text options a rest here).or (run text options b rest here)
  | group number body, rest => fun here =>
    run text options body (fun there => rest (there.mark (2 * number + 1))) (here.mark (2 * number))
  | withOptions set cleared body, rest => run text (options.within set cleared) body rest
  | atomic body, rest => fun here => (run text options body some here).bind rest
  | ahead negated body, rest => fun here =>
    match run text options body some here with
    | some there => if negated then none else rest { there with position := here.position }
    | none => if negated then rest here else none
  | behind negated width body, rest => fun here =>
    let found := match width with
      | some width =>
        if width ≤ here.position then
          run text options body some { here with position := here.position - width }
        else none
      | none => none
    match found with
    | some there => if negated then none else rest { there with position := here.position }
    | none => if negated then rest here else none
  | backreference number, rest => fun here =>
    match here.group? number with
    | none => none
    | some (start, stop) =>
      let same := fun a b => if options.ignoreCase then foldCase options.ascii a == foldCase options.ascii b else a == b
      if sameStretch text same here.position start (stop - start) then
        rest { here with position := here.position + (stop - start) }
      else none
  | conditional number present absent, rest => fun here =>
    if (here.group? number).isSome then run text options present rest here
    else run text options absent rest here
  | repeated greed least most body, rest => fun here =>
    -- Beyond the least count every step moves on, so this many steps are never used up.
    let fuel := least + text.size + 2
    match greed with
    | .greedy => repeatGreedy (run text options body) least most rest fuel 0 none here
    | .lazy => repeatLazy (run text options body) least most rest fuel 0 none here
    | .possessive => (repeatPossessive (run text options body) least most fuel 0 none here).bind rest

/-- Whether an expression matches somewhere in a text. -/
def occursIn (options : RegexOptions) (regex : Regex) (text : Text) : Bool :=
  let chars := text.toArray
  (List.range (chars.size + 1)).any fun start => (run chars options regex some ⟨start, []⟩).isSome

end Regex

end AssetCatalog
