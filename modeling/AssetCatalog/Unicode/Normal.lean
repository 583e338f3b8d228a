import AssetCatalog.Unicode.Composition

/-! The compatibility normal form with composition: decompose, order the marks, compose. -/

namespace AssetCatalog.Unicode

/-- The first Hangul syllable, and the number of code points that syllables take. -/
def hangulSyllables : Nat × Nat := (0xAC00, 11172)

/-- The jamo of a Hangul syllable, given its place among the syllables. -/
def hangulParts (place : Nat) : List Nat :=
  -- Each of the nineteen leading consonants has twenty-one vowels with twenty-seven endings or none.
  let leading := 0x1100 + place / 588
  let vowel := 0x1161 + place % 588 / 28
  if place % 28 = 0 then [leading, vowel] else [leading, vowel, 0x11A7 + place % 28]

/-- The full compatibility decomposition of a character. -/
def decompose (c : Char) : Text :=
  -- Syllables follow a formula and have no rows of their own.
  let code := c.toNat
  if hangulSyllables.1 ≤ code ∧ code < hangulSyllables.1 + hangulSyllables.2 then
    (hangulParts (code - hangulSyllables.1)).map Char.ofNat
  else match decomposition? code with
    | some codes => codes.map Char.ofNat
    | none => [c]

/-- Puts a mark behind the marks of its own or a lower class at the end of an ordered text. -/
def insertMark (mark : Char) : Text → Text
  -- The text is reversed, and a starter is never passed.
  | [] => [mark]
  | c :: rest =>
    if combiningClass mark < combiningClass c then c :: insertMark mark rest else mark :: c :: rest

/-- Every run of marks in ascending order of class, with marks of one class in their given order. -/
def orderMarks (text : Text) : Text :=
  -- A starter goes to the end at once, and a mark is moved forward over higher classes.
  (text.foldl (fun ordered c =>
    if combiningClass c = 0 then c :: ordered else insertMark c ordered) []).reverse

/-- The one character that a pair makes, Hangul syllables included. -/
def compose? (first second : Char) : Option Char :=
  -- A leading consonant takes a vowel, and a syllable without an ending takes an ending.
  let a := first.toNat
  let b := second.toNat
  if 0x1100 ≤ a ∧ a < 0x1113 ∧ 0x1161 ≤ b ∧ b < 0x1176 then
    some (Char.ofNat (0xAC00 + ((a - 0x1100) * 21 + (b - 0x1161)) * 28))
  else if 0xAC00 ≤ a ∧ a < 0xAC00 + 11172 ∧ (a - 0xAC00) % 28 = 0 ∧ 0x11A8 ≤ b ∧ b < 0x11C3 then
    some (Char.ofNat (a + (b - 0x11A7)))
  else (composition? compositionRows a b).map Char.ofNat

/-- Composes the rest of a text with its last starter, past the marks that did not join it. -/
def composeAfter (starter : Char) (passed : Text) : Text → Text
  -- A character is blocked from the starter by a passed mark whose class is not lower than its own.
  | [] => starter :: passed.reverse
  | c :: rest =>
    let blocked := match passed with
      | [] => false
      | mark :: _ => combiningClass c ≤ combiningClass mark
    match if blocked then none else compose? starter c with
    | some joined => composeAfter joined passed rest
    | none =>
      if combiningClass c = 0 then starter :: passed.reverse ++ composeAfter c [] rest
      else composeAfter starter (c :: passed) rest

/-- The text with every pair composed that canonical composition joins. -/
def composeAll : Text → Text
  -- Marks before the first starter have nothing to join.
  | [] => []
  | c :: rest => if combiningClass c = 0 then composeAfter c [] rest else c :: composeAll rest

/-- The compatibility normal form: the form in which two spellings of one identifier are compared. -/
def nfkc (text : Text) : Text :=
  composeAll (orderMarks (text.flatMap decompose))

end AssetCatalog.Unicode
