import AssetCatalog.Unicode.Category

/-! The characters of identifiers in Unicode 14, and the texts that are identifiers. -/

namespace AssetCatalog.Unicode

/-- Letters whose normal form would not be an identifier, and which therefore start none. -/
def excludedFromWords : List Nat :=
  [0x037A, 0xFC5E, 0xFC5F, 0xFC60, 0xFC61, 0xFC62, 0xFC63, 0xFDFA, 0xFDFB, 0xFE70, 0xFE72, 0xFE74,
    0xFE76, 0xFE78, 0xFE7A, 0xFE7C, 0xFE7E, 0x2E2F]

/-- Letters that continue an identifier and do not start one. -/
def excludedFromStart : List Nat :=
  [0x0E33, 0x0EB3, 0xFF9E, 0xFF9F]

/-- Signs that continue an identifier though they are neither letters, marks nor digits. -/
def addedToWords : List Nat :=
  [0x00B7, 0x0387, 0x1369, 0x136A, 0x136B, 0x136C, 0x136D, 0x136E, 0x136F, 0x1370, 0x1371, 0x19DA,
    0x2118, 0x212E]

/-- Whether a character may start an identifier, the underscore included. -/
def startsWord (c : Char) : Bool :=
  -- Two marks and two symbols start identifiers for the sake of older texts.
  match category c with
  | .casedLetter | .modifierLetter | .otherLetter | .letterNumber =>
    !excludedFromWords.contains c.toNat && !excludedFromStart.contains c.toNat
  | _ => c == '_' || [0x1885, 0x1886, 0x2118, 0x212E].contains c.toNat

/-- Whether a character may stand in an identifier behind its first. -/
def continuesWord (c : Char) : Bool :=
  match category c with
  | .casedLetter | .modifierLetter | .otherLetter | .letterNumber =>
    !excludedFromWords.contains c.toNat
  | .decimalDigit | .nonspacingMark | .spacingMark | .connector => true
  | _ => addedToWords.contains c.toNat

/-- Whether a text is an identifier: one character that starts a word and any that continue it. -/
def isIdentifier : Text → Bool
  | [] => false
  | c :: rest => startsWord c && rest.all continuesWord

end AssetCatalog.Unicode
