import AssetCatalog.Text

/-! The general category of every code point of Unicode 14, with the classes that share a use joined. -/

set_option maxRecDepth 20000

namespace AssetCatalog.Unicode

/-- The general categories, with the cased letters, the plain punctuation and the plain symbols joined. -/
inductive Category where
  /-- Upper-case, lower-case and title-case letters. -/
  | casedLetter
  /-- Modifier letters. -/
  | modifierLetter
  /-- Letters without case. -/
  | otherLetter
  /-- Marks that take no room. -/
  | nonspacingMark
  /-- Marks that take room. -/
  | spacingMark
  /-- Marks that enclose their base. -/
  | enclosingMark
  /-- Digits of a decimal system. -/
  | decimalDigit
  /-- Letters used as numbers. -/
  | letterNumber
  /-- Fractions, superscripts and other numbers. -/
  | otherNumber
  /-- Punctuation that connects words. -/
  | connector
  /-- All other punctuation. -/
  | punctuation
  /-- Symbols that modify. -/
  | modifierSymbol
  /-- All other symbols. -/
  | symbol
  /-- Space separators. -/
  | space
  /-- Line and paragraph separators. -/
  | separator
  /-- Invisible format characters. -/
  | format
  /-- Control characters. -/
  | control
  /-- Surrogates, private use and code points without a character. -/
  | unassigned
deriving DecidableEq, Repr

/-- The value of the last row that starts at or before a code point, in rows of ascending start. -/
def lastRow {α : Type} (found : α) : List (Nat × α) → Nat → α
  | [], _ => found
  | (start, value) :: rest, code => if code < start then found else lastRow value rest code

/-- The first code point of every run of one category, in ascending order. -/
def categoryRuns : List (Nat × Category) := [
  (0x0000, .control), (0x0020, .space), (0x0021, .punctuation), (0x0024, .symbol),
  (0x0025, .punctuation), (0x002B, .symbol), (0x002C, .punctuation), (0x0030, .decimalDigit),
  (0x003A, .punctuation), (0x003C, .symbol), (0x003F, .punctuation), (0x0041, .casedLetter),
  (0x005B, .punctuation), (0x005E, .modifierSymbol), (0x005F, .connector),
  (0x0060, .modifierSymbol), (0x0061, .casedLetter), (0x007B, .punctuation), (0x007C, .symbol),
  (0x007D, .punctuation), (0x007E, .symbol), (0x007F, .control), (0x00A0, .space),
  (0x00A1, .punctuation), (0x00A2, .symbol), (0x00A7, .punctuation), (0x00A8, .modifierSymbol),
  (0x00A9, .symbol), (0x00AA, .otherLetter), (0x00AB, .punctuation), (0x00AC, .symbol),
  (0x00AD, .format), (0x00AE, .symbol), (0x00AF, .modifierSymbol), (0x00B0, .symbol),
  (0x00B2, .otherNumber), (0x00B4, .modifierSymbol), (0x00B5, .casedLetter),
  (0x00B6, .punctuation), (0x00B8, .modifierSymbol), (0x00B9, .otherNumber),
  (0x00BA, .otherLetter), (0x00BB, .punctuation), (0x00BC, .otherNumber), (0x00BF, .punctuation),
  (0x00C0, .casedLetter), (0x00D7, .symbol), (0x00D8, .casedLetter), (0x00F7, .symbol),
  (0x00F8, .casedLetter), (0x01BB, .otherLetter), (0x01BC, .casedLetter), (0x01C0, .otherLetter),
  (0x01C4, .casedLetter), (0x0294, .otherLetter), (0x0295, .casedLetter),
  (0x02B0, .modifierLetter), (0x02C2, .modifierSymbol), (0x02C6, .modifierLetter),
  (0x02D2, .modifierSymbol), (0x02E0, .modifierLetter), (0x02E5, .modifierSymbol),
  (0x02EC, .modifierLetter), (0x02ED, .modifierSymbol), (0x02EE, .modifierLetter),
  (0x02EF, .modifierSymbol), (0x0300, .nonspacingMark), (0x0370, .casedLetter),
  (0x0374, .modifierLetter), (0x0375, .modifierSymbol), (0x0376, .casedLetter),
  (0x0378, .unassigned), (0x037A, .modifierLetter), (0x037B, .casedLetter),
  (0x037E, .punctuation), (0x037F, .casedLetter), (0x0380, .unassigned),
  (0x0384, .modifierSymbol), (0x0386, .casedLetter), (0x0387, .punctuation),
  (0x0388, .casedLetter), (0x038B, .unassigned), (0x038C, .casedLetter), (0x038D, .unassigned),
  (0x038E, .casedLetter), (0x03A2, .unassigned), (0x03A3, .casedLetter), (0x03F6, .symbol),
  (0x03F7, .casedLetter), (0x0482, .symbol), (0x0483, .nonspacingMark), (0x0488, .enclosingMark),
  (0x048A, .casedLetter), (0x0530, .unassigned), (0x0531, .casedLetter), (0x0557, .unassigned),
  (0x0559, .modifierLetter), (0x055A, .punctuation), (0x0560, .casedLetter),
  (0x0589, .punctuation), (0x058B, .unassigned), (0x058D, .symbol), (0x0590, .unassigned),
  (0x0591, .nonspacingMark), (0x05BE, .punctuation), (0x05BF, .nonspacingMark),
  (0x05C0, .punctuation), (0x05C1, .nonspacingMark), (0x05C3, .punctuation),
  (0x05C4, .nonspacingMark), (0x05C6, .punctuation), (0x05C7, .nonspacingMark),
  (0x05C8, .unassigned), (0x05D0, .otherLetter), (0x05EB, .unassigned), (0x05EF, .otherLetter),
  (0x05F3, .punctuation), (0x05F5, .unassigned), (0x0600, .format), (0x0606, .symbol),
  (0x0609, .punctuation), (0x060B, .symbol), (0x060C, .punctuation), (0x060E, .symbol),
  (0x0610, .nonspacingMark), (0x061B, .punctuation), (0x061C, .format), (0x061D, .punctuation),
  (0x0620, .otherLetter), (0x0640, .modifierLetter), (0x0641, .otherLetter),
  (0x064B, .nonspacingMark), (0x0660, .decimalDigit), (0x066A, .punctuation),
  (0x066E, .otherLetter), (0x0670, .nonspacingMark), (0x0671, .otherLetter),
  (0x06D4, .punctuation), (0x06D5, .otherLetter), (0x06D6, .nonspacingMark), (0x06DD, .format),
  (0x06DE, .symbol), (0x06DF, .nonspacingMark), (0x06E5, .modifierLetter),
  (0x06E7, .nonspacingMark), (0x06E9, .symbol), (0x06EA, .nonspacingMark),
  (0x06EE, .otherLetter), (0x06F0, .decimalDigit), (0x06FA, .otherLetter), (0x06FD, .symbol),
  (0x06FF, .otherLetter), (0x0700, .punctuation), (0x070E, .unassigned), (0x070F, .format),
  (0x0710, .otherLetter), (0x0711, .nonspacingMark), (0x0712, .otherLetter),
  (0x0730, .nonspacingMark), (0x074B, .unassigned), (0x074D, .otherLetter),
  (0x07A6, .nonspacingMark), (0x07B1, .otherLetter), (0x07B2, .unassigned),
  (0x07C0, .decimalDigit), (0x07CA, .otherLetter), (0x07EB, .nonspacingMark),
  (0x07F4, .modifierLetter), (0x07F6, .symbol), (0x07F7, .punctuation),
  (0x07FA, .modifierLetter), (0x07FB, .unassigned), (0x07FD, .nonspacingMark), (0x07FE, .symbol),
  (0x0800, .otherLetter), (0x0816, .nonspacingMark), (0x081A, .modifierLetter),
  (0x081B, .nonspacingMark), (0x0824, .modifierLetter), (0x0825, .nonspacingMark),
  (0x0828, .modifierLetter), (0x0829, .nonspacingMark), (0x082E, .unassigned),
  (0x0830, .punctuation), (0x083F, .unassigned), (0x0840, .otherLetter),
  (0x0859, .nonspacingMark), (0x085C, .unassigned), (0x085E, .punctuation),
  (0x085F, .unassigned), (0x0860, .otherLetter), (0x086B, .unassigned), (0x0870, .otherLetter),
  (0x0888, .modifierSymbol), (0x0889, .otherLetter), (0x088F, .unassigned), (0x0890, .format),
  (0x0892, .unassigned), (0x0898, .nonspacingMark), (0x08A0, .otherLetter),
  (0x08C9, .modifierLetter), (0x08CA, .nonspacingMark), (0x08E2, .format),
  (0x08E3, .nonspacingMark), (0x0903, .spacingMark), (0x0904, .otherLetter),
  (0x093A, .nonspacingMark), (0x093B, .spacingMark), (0x093C, .nonspacingMark),
  (0x093D, .otherLetter), (0x093E, .spacingMark), (0x0941, .nonspacingMark),
  (0x0949, .spacingMark), (0x094D, .nonspacingMark), (0x094E, .spacingMark),
  (0x0950, .otherLetter), (0x0951, .nonspacingMark), (0x0958, .otherLetter),
  (0x0962, .nonspacingMark), (0x0964, .punctuation), (0x0966, .decimalDigit),
  (0x0970, .punctuation), (0x0971, .modifierLetter), (0x0972, .otherLetter),
  (0x0981, .nonspacingMark), (0x0982, .spacingMark), (0x0984, .unassigned),
  (0x0985, .otherLetter), (0x098D, .unassigned), (0x098F, .otherLetter), (0x0991, .unassigned),
  (0x0993, .otherLetter), (0x09A9, .unassigned), (0x09AA, .otherLetter), (0x09B1, .unassigned),
  (0x09B2, .otherLetter), (0x09B3, .unassigned), (0x09B6, .otherLetter), (0x09BA, .unassigned),
  (0x09BC, .nonspacingMark), (0x09BD, .otherLetter), (0x09BE, .spacingMark),
  (0x09C1, .nonspacingMark), (0x09C5, .unassigned), (0x09C7, .spacingMark),
  (0x09C9, .unassigned), (0x09CB, .spacingMark), (0x09CD, .nonspacingMark),
  (0x09CE, .otherLetter), (0x09CF, .unassigned), (0x09D7, .spacingMark), (0x09D8, .unassigned),
  (0x09DC, .otherLetter), (0x09DE, .unassigned), (0x09DF, .otherLetter),
  (0x09E2, .nonspacingMark), (0x09E4, .unassigned), (0x09E6, .decimalDigit),
  (0x09F0, .otherLetter), (0x09F2, .symbol), (0x09F4, .otherNumber), (0x09FA, .symbol),
  (0x09FC, .otherLetter), (0x09FD, .punctuation), (0x09FE, .nonspacingMark),
  (0x09FF, .unassigned), (0x0A01, .nonspacingMark), (0x0A03, .spacingMark),
  (0x0A04, .unassigned), (0x0A05, .otherLetter), (0x0A0B, .unassigned), (0x0A0F, .otherLetter),
  (0x0A11, .unassigned), (0x0A13, .otherLetter), (0x0A29, .unassigned), (0x0A2A, .otherLetter),
  (0x0A31, .unassigned), (0x0A32, .otherLetter), (0x0A34, .unassigned), (0x0A35, .otherLetter),
  (0x0A37, .unassigned), (0x0A38, .otherLetter), (0x0A3A, .unassigned),
  (0x0A3C, .nonspacingMark), (0x0A3D, .unassigned), (0x0A3E, .spacingMark),
  (0x0A41, .nonspacingMark), (0x0A43, .unassigned), (0x0A47, .nonspacingMark),
  (0x0A49, .unassigned), (0x0A4B, .nonspacingMark), (0x0A4E, .unassigned),
  (0x0A51, .nonspacingMark), (0x0A52, .unassigned), (0x0A59, .otherLetter),
  (0x0A5D, .unassigned), (0x0A5E, .otherLetter), (0x0A5F, .unassigned), (0x0A66, .decimalDigit),
  (0x0A70, .nonspacingMark), (0x0A72, .otherLetter), (0x0A75, .nonspacingMark),
  (0x0A76, .punctuation), (0x0A77, .unassigned), (0x0A81, .nonspacingMark),
  (0x0A83, .spacingMark), (0x0A84, .unassigned), (0x0A85, .otherLetter), (0x0A8E, .unassigned),
  (0x0A8F, .otherLetter), (0x0A92, .unassigned), (0x0A93, .otherLetter), (0x0AA9, .unassigned),
  (0x0AAA, .otherLetter), (0x0AB1, .unassigned), (0x0AB2, .otherLetter), (0x0AB4, .unassigned),
  (0x0AB5, .otherLetter), (0x0ABA, .unassigned), (0x0ABC, .nonspacingMark),
  (0x0ABD, .otherLetter), (0x0ABE, .spacingMark), (0x0AC1, .nonspacingMark),
  (0x0AC6, .unassigned), (0x0AC7, .nonspacingMark), (0x0AC9, .spacingMark),
  (0x0ACA, .unassigned), (0x0ACB, .spacingMark), (0x0ACD, .nonspacingMark),
  (0x0ACE, .unassigned), (0x0AD0, .otherLetter), (0x0AD1, .unassigned), (0x0AE0, .otherLetter),
  (0x0AE2, .nonspacingMark), (0x0AE4, .unassigned), (0x0AE6, .decimalDigit),
  (0x0AF0, .punctuation), (0x0AF1, .symbol), (0x0AF2, .unassigned), (0x0AF9, .otherLetter),
  (0x0AFA, .nonspacingMark), (0x0B00, .unassigned), (0x0B01, .nonspacingMark),
  (0x0B02, .spacingMark), (0x0B04, .unassigned), (0x0B05, .otherLetter), (0x0B0D, .unassigned),
  (0x0B0F, .otherLetter), (0x0B11, .unassigned), (0x0B13, .otherLetter), (0x0B29, .unassigned),
  (0x0B2A, .otherLetter), (0x0B31, .unassigned), (0x0B32, .otherLetter), (0x0B34, .unassigned),
  (0x0B35, .otherLetter), (0x0B3A, .unassigned), (0x0B3C, .nonspacingMark),
  (0x0B3D, .otherLetter), (0x0B3E, .spacingMark), (0x0B3F, .nonspacingMark),
  (0x0B40, .spacingMark), (0x0B41, .nonspacingMark), (0x0B45, .unassigned),
  (0x0B47, .spacingMark), (0x0B49, .unassigned), (0x0B4B, .spacingMark),
  (0x0B4D, .nonspacingMark), (0x0B4E, .unassigned), (0x0B55, .nonspacingMark),
  (0x0B57, .spacingMark), (0x0B58, .unassigned), (0x0B5C, .otherLetter), (0x0B5E, .unassigned),
  (0x0B5F, .otherLetter), (0x0B62, .nonspacingMark), (0x0B64, .unassigned),
  (0x0B66, .decimalDigit), (0x0B70, .symbol), (0x0B71, .otherLetter), (0x0B72, .otherNumber),
  (0x0B78, .unassigned), (0x0B82, .nonspacingMark), (0x0B83, .otherLetter),
  (0x0B84, .unassigned), (0x0B85, .otherLetter), (0x0B8B, .unassigned), (0x0B8E, .otherLetter),
  (0x0B91, .unassigned), (0x0B92, .otherLetter), (0x0B96, .unassigned), (0x0B99, .otherLetter),
  (0x0B9B, .unassigned), (0x0B9C, .otherLetter), (0x0B9D, .unassigned), (0x0B9E, .otherLetter),
  (0x0BA0, .unassigned), (0x0BA3, .otherLetter), (0x0BA5, .unassigned), (0x0BA8, .otherLetter),
  (0x0BAB, .unassigned), (0x0BAE, .otherLetter), (0x0BBA, .unassigned), (0x0BBE, .spacingMark),
  (0x0BC0, .nonspacingMark), (0x0BC1, .spacingMark), (0x0BC3, .unassigned),
  (0x0BC6, .spacingMark), (0x0BC9, .unassigned), (0x0BCA, .spacingMark),
  (0x0BCD, .nonspacingMark), (0x0BCE, .unassigned), (0x0BD0, .otherLetter),
  (0x0BD1, .unassigned), (0x0BD7, .spacingMark), (0x0BD8, .unassigned), (0x0BE6, .decimalDigit),
  (0x0BF0, .otherNumber), (0x0BF3, .symbol), (0x0BFB, .unassigned), (0x0C00, .nonspacingMark),
  (0x0C01, .spacingMark), (0x0C04, .nonspacingMark), (0x0C05, .otherLetter),
  (0x0C0D, .unassigned), (0x0C0E, .otherLetter), (0x0C11, .unassigned), (0x0C12, .otherLetter),
  (0x0C29, .unassigned), (0x0C2A, .otherLetter), (0x0C3A, .unassigned),
  (0x0C3C, .nonspacingMark), (0x0C3D, .otherLetter), (0x0C3E, .nonspacingMark),
  (0x0C41, .spacingMark), (0x0C45, .unassigned), (0x0C46, .nonspacingMark),
  (0x0C49, .unassigned), (0x0C4A, .nonspacingMark), (0x0C4E, .unassigned),
  (0x0C55, .nonspacingMark), (0x0C57, .unassigned), (0x0C58, .otherLetter),
  (0x0C5B, .unassigned), (0x0C5D, .otherLetter), (0x0C5E, .unassigned), (0x0C60, .otherLetter),
  (0x0C62, .nonspacingMark), (0x0C64, .unassigned), (0x0C66, .decimalDigit),
  (0x0C70, .unassigned), (0x0C77, .punctuation), (0x0C78, .otherNumber), (0x0C7F, .symbol),
  (0x0C80, .otherLetter), (0x0C81, .nonspacingMark), (0x0C82, .spacingMark),
  (0x0C84, .punctuation), (0x0C85, .otherLetter), (0x0C8D, .unassigned), (0x0C8E, .otherLetter),
  (0x0C91, .unassigned), (0x0C92, .otherLetter), (0x0CA9, .unassigned), (0x0CAA, .otherLetter),
  (0x0CB4, .unassigned), (0x0CB5, .otherLetter), (0x0CBA, .unassigned),
  (0x0CBC, .nonspacingMark), (0x0CBD, .otherLetter), (0x0CBE, .spacingMark),
  (0x0CBF, .nonspacingMark), (0x0CC0, .spacingMark), (0x0CC5, .unassigned),
  (0x0CC6, .nonspacingMark), (0x0CC7, .spacingMark), (0x0CC9, .unassigned),
  (0x0CCA, .spacingMark), (0x0CCC, .nonspacingMark), (0x0CCE, .unassigned),
  (0x0CD5, .spacingMark), (0x0CD7, .unassigned), (0x0CDD, .otherLetter), (0x0CDF, .unassigned),
  (0x0CE0, .otherLetter), (0x0CE2, .nonspacingMark), (0x0CE4, .unassigned),
  (0x0CE6, .decimalDigit), (0x0CF0, .unassigned), (0x0CF1, .otherLetter), (0x0CF3, .unassigned),
  (0x0D00, .nonspacingMark), (0x0D02, .spacingMark), (0x0D04, .otherLetter),
  (0x0D0D, .unassigned), (0x0D0E, .otherLetter), (0x0D11, .unassigned), (0x0D12, .otherLetter),
  (0x0D3B, .nonspacingMark), (0x0D3D, .otherLetter), (0x0D3E, .spacingMark),
  (0x0D41, .nonspacingMark), (0x0D45, .unassigned), (0x0D46, .spacingMark),
  (0x0D49, .unassigned), (0x0D4A, .spacingMark), (0x0D4D, .nonspacingMark),
  (0x0D4E, .otherLetter), (0x0D4F, .symbol), (0x0D50, .unassigned), (0x0D54, .otherLetter),
  (0x0D57, .spacingMark), (0x0D58, .otherNumber), (0x0D5F, .otherLetter),
  (0x0D62, .nonspacingMark), (0x0D64, .unassigned), (0x0D66, .decimalDigit),
  (0x0D70, .otherNumber), (0x0D79, .symbol), (0x0D7A, .otherLetter), (0x0D80, .unassigned),
  (0x0D81, .nonspacingMark), (0x0D82, .spacingMark), (0x0D84, .unassigned),
  (0x0D85, .otherLetter), (0x0D97, .unassigned), (0x0D9A, .otherLetter), (0x0DB2, .unassigned),
  (0x0DB3, .otherLetter), (0x0DBC, .unassigned), (0x0DBD, .otherLetter), (0x0DBE, .unassigned),
  (0x0DC0, .otherLetter), (0x0DC7, .unassigned), (0x0DCA, .nonspacingMark),
  (0x0DCB, .unassigned), (0x0DCF, .spacingMark), (0x0DD2, .nonspacingMark),
  (0x0DD5, .unassigned), (0x0DD6, .nonspacingMark), (0x0DD7, .unassigned),
  (0x0DD8, .spacingMark), (0x0DE0, .unassigned), (0x0DE6, .decimalDigit), (0x0DF0, .unassigned),
  (0x0DF2, .spacingMark), (0x0DF4, .punctuation), (0x0DF5, .unassigned), (0x0E01, .otherLetter),
  (0x0E31, .nonspacingMark), (0x0E32, .otherLetter), (0x0E34, .nonspacingMark),
  (0x0E3B, .unassigned), (0x0E3F, .symbol), (0x0E40, .otherLetter), (0x0E46, .modifierLetter),
  (0x0E47, .nonspacingMark), (0x0E4F, .punctuation), (0x0E50, .decimalDigit),
  (0x0E5A, .punctuation), (0x0E5C, .unassigned), (0x0E81, .otherLetter), (0x0E83, .unassigned),
  (0x0E84, .otherLetter), (0x0E85, .unassigned), (0x0E86, .otherLetter), (0x0E8B, .unassigned),
  (0x0E8C, .otherLetter), (0x0EA4, .unassigned), (0x0EA5, .otherLetter), (0x0EA6, .unassigned),
  (0x0EA7, .otherLetter), (0x0EB1, .nonspacingMark), (0x0EB2, .otherLetter),
  (0x0EB4, .nonspacingMark), (0x0EBD, .otherLetter), (0x0EBE, .unassigned),
  (0x0EC0, .otherLetter), (0x0EC5, .unassigned), (0x0EC6, .modifierLetter),
  (0x0EC7, .unassigned), (0x0EC8, .nonspacingMark), (0x0ECE, .unassigned),
  (0x0ED0, .decimalDigit), (0x0EDA, .unassigned), (0x0EDC, .otherLetter), (0x0EE0, .unassigned),
  (0x0F00, .otherLetter), (0x0F01, .symbol), (0x0F04, .punctuation), (0x0F13, .symbol),
  (0x0F14, .punctuation), (0x0F15, .symbol), (0x0F18, .nonspacingMark), (0x0F1A, .symbol),
  (0x0F20, .decimalDigit), (0x0F2A, .otherNumber), (0x0F34, .symbol), (0x0F35, .nonspacingMark),
  (0x0F36, .symbol), (0x0F37, .nonspacingMark), (0x0F38, .symbol), (0x0F39, .nonspacingMark),
  (0x0F3A, .punctuation), (0x0F3E, .spacingMark), (0x0F40, .otherLetter), (0x0F48, .unassigned),
  (0x0F49, .otherLetter), (0x0F6D, .unassigned), (0x0F71, .nonspacingMark),
  (0x0F7F, .spacingMark), (0x0F80, .nonspacingMark), (0x0F85, .punctuation),
  (0x0F86, .nonspacingMark), (0x0F88, .otherLetter), (0x0F8D, .nonspacingMark),
  (0x0F98, .unassigned), (0x0F99, .nonspacingMark), (0x0FBD, .unassigned), (0x0FBE, .symbol),
  (0x0FC6, .nonspacingMark), (0x0FC7, .symbol), (0x0FCD, .unassigned), (0x0FCE, .symbol),
  (0x0FD0, .punctuation), (0x0FD5, .symbol), (0x0FD9, .punctuation), (0x0FDB, .unassigned),
  (0x1000, .otherLetter), (0x102B, .spacingMark), (0x102D, .nonspacingMark),
  (0x1031, .spacingMark), (0x1032, .nonspacingMark), (0x1038, .spacingMark),
  (0x1039, .nonspacingMark), (0x103B, .spacingMark), (0x103D, .nonspacingMark),
  (0x103F, .otherLetter), (0x1040, .decimalDigit), (0x104A, .punctuation),
  (0x1050, .otherLetter), (0x1056, .spacingMark), (0x1058, .nonspacingMark),
  (0x105A, .otherLetter), (0x105E, .nonspacingMark), (0x1061, .otherLetter),
  (0x1062, .spacingMark), (0x1065, .otherLetter), (0x1067, .spacingMark), (0x106E, .otherLetter),
  (0x1071, .nonspacingMark), (0x1075, .otherLetter), (0x1082, .nonspacingMark),
  (0x1083, .spacingMark), (0x1085, .nonspacingMark), (0x1087, .spacingMark),
  (0x108D, .nonspacingMark), (0x108E, .otherLetter), (0x108F, .spacingMark),
  (0x1090, .decimalDigit), (0x109A, .spacingMark), (0x109D, .nonspacingMark), (0x109E, .symbol),
  (0x10A0, .casedLetter), (0x10C6, .unassigned), (0x10C7, .casedLetter), (0x10C8, .unassigned),
  (0x10CD, .casedLetter), (0x10CE, .unassigned), (0x10D0, .casedLetter), (0x10FB, .punctuation),
  (0x10FC, .modifierLetter), (0x10FD, .casedLetter), (0x1100, .otherLetter),
  (0x1249, .unassigned), (0x124A, .otherLetter), (0x124E, .unassigned), (0x1250, .otherLetter),
  (0x1257, .unassigned), (0x1258, .otherLetter), (0x1259, .unassigned), (0x125A, .otherLetter),
  (0x125E, .unassigned), (0x1260, .otherLetter), (0x1289, .unassigned), (0x128A, .otherLetter),
  (0x128E, .unassigned), (0x1290, .otherLetter), (0x12B1, .unassigned), (0x12B2, .otherLetter),
  (0x12B6, .unassigned), (0x12B8, .otherLetter), (0x12BF, .unassigned), (0x12C0, .otherLetter),
  (0x12C1, .unassigned), (0x12C2, .otherLetter), (0x12C6, .unassigned), (0x12C8, .otherLetter),
  (0x12D7, .unassigned), (0x12D8, .otherLetter), (0x1311, .unassigned), (0x1312, .otherLetter),
  (0x1316, .unassigned), (0x1318, .otherLetter), (0x135B, .unassigned),
  (0x135D, .nonspacingMark), (0x1360, .punctuation), (0x1369, .otherNumber),
  (0x137D, .unassigned), (0x1380, .otherLetter), (0x1390, .symbol), (0x139A, .unassigned),
  (0x13A0, .casedLetter), (0x13F6, .unassigned), (0x13F8, .casedLetter), (0x13FE, .unassigned),
  (0x1400, .punctuation), (0x1401, .otherLetter), (0x166D, .symbol), (0x166E, .punctuation),
  (0x166F, .otherLetter), (0x1680, .space), (0x1681, .otherLetter), (0x169B, .punctuation),
  (0x169D, .unassigned), (0x16A0, .otherLetter), (0x16EB, .punctuation), (0x16EE, .letterNumber),
  (0x16F1, .otherLetter), (0x16F9, .unassigned), (0x1700, .otherLetter),
  (0x1712, .nonspacingMark), (0x1715, .spacingMark), (0x1716, .unassigned),
  (0x171F, .otherLetter), (0x1732, .nonspacingMark), (0x1734, .spacingMark),
  (0x1735, .punctuation), (0x1737, .unassigned), (0x1740, .otherLetter),
  (0x1752, .nonspacingMark), (0x1754, .unassigned), (0x1760, .otherLetter),
  (0x176D, .unassigned), (0x176E, .otherLetter), (0x1771, .unassigned),
  (0x1772, .nonspacingMark), (0x1774, .unassigned), (0x1780, .otherLetter),
  (0x17B4, .nonspacingMark), (0x17B6, .spacingMark), (0x17B7, .nonspacingMark),
  (0x17BE, .spacingMark), (0x17C6, .nonspacingMark), (0x17C7, .spacingMark),
  (0x17C9, .nonspacingMark), (0x17D4, .punctuation), (0x17D7, .modifierLetter),
  (0x17D8, .punctuation), (0x17DB, .symbol), (0x17DC, .otherLetter), (0x17DD, .nonspacingMark),
  (0x17DE, .unassigned), (0x17E0, .decimalDigit), (0x17EA, .unassigned), (0x17F0, .otherNumber),
  (0x17FA, .unassigned), (0x1800, .punctuation), (0x180B, .nonspacingMark), (0x180E, .format),
  (0x180F, .nonspacingMark), (0x1810, .decimalDigit), (0x181A, .unassigned),
  (0x1820, .otherLetter), (0x1843, .modifierLetter), (0x1844, .otherLetter),
  (0x1879, .unassigned), (0x1880, .otherLetter), (0x1885, .nonspacingMark),
  (0x1887, .otherLetter), (0x18A9, .nonspacingMark), (0x18AA, .otherLetter),
  (0x18AB, .unassigned), (0x18B0, .otherLetter), (0x18F6, .unassigned), (0x1900, .otherLetter),
  (0x191F, .unassigned), (0x1920, .nonspacingMark), (0x1923, .spacingMark),
  (0x1927, .nonspacingMark), (0x1929, .spacingMark), (0x192C, .unassigned),
  (0x1930, .spacingMark), (0x1932, .nonspacingMark), (0x1933, .spacingMark),
  (0x1939, .nonspacingMark), (0x193C, .unassigned), (0x1940, .symbol), (0x1941, .unassigned),
  (0x1944, .punctuation), (0x1946, .decimalDigit), (0x1950, .otherLetter), (0x196E, .unassigned),
  (0x1970, .otherLetter), (0x1975, .unassigned), (0x1980, .otherLetter), (0x19AC, .unassigned),
  (0x19B0, .otherLetter), (0x19CA, .unassigned), (0x19D0, .decimalDigit), (0x19DA, .otherNumber),
  (0x19DB, .unassigned), (0x19DE, .symbol), (0x1A00, .otherLetter), (0x1A17, .nonspacingMark),
  (0x1A19, .spacingMark), (0x1A1B, .nonspacingMark), (0x1A1C, .unassigned),
  (0x1A1E, .punctuation), (0x1A20, .otherLetter), (0x1A55, .spacingMark),
  (0x1A56, .nonspacingMark), (0x1A57, .spacingMark), (0x1A58, .nonspacingMark),
  (0x1A5F, .unassigned), (0x1A60, .nonspacingMark), (0x1A61, .spacingMark),
  (0x1A62, .nonspacingMark), (0x1A63, .spacingMark), (0x1A65, .nonspacingMark),
  (0x1A6D, .spacingMark), (0x1A73, .nonspacingMark), (0x1A7D, .unassigned),
  (0x1A7F, .nonspacingMark), (0x1A80, .decimalDigit), (0x1A8A, .unassigned),
  (0x1A90, .decimalDigit), (0x1A9A, .unassigned), (0x1AA0, .punctuation),
  (0x1AA7, .modifierLetter), (0x1AA8, .punctuation), (0x1AAE, .unassigned),
  (0x1AB0, .nonspacingMark), (0x1ABE, .enclosingMark), (0x1ABF, .nonspacingMark),
  (0x1ACF, .unassigned), (0x1B00, .nonspacingMark), (0x1B04, .spacingMark),
  (0x1B05, .otherLetter), (0x1B34, .nonspacingMark), (0x1B35, .spacingMark),
  (0x1B36, .nonspacingMark), (0x1B3B, .spacingMark), (0x1B3C, .nonspacingMark),
  (0x1B3D, .spacingMark), (0x1B42, .nonspacingMark), (0x1B43, .spacingMark),
  (0x1B45, .otherLetter), (0x1B4D, .unassigned), (0x1B50, .decimalDigit), (0x1B5A, .punctuation),
  (0x1B61, .symbol), (0x1B6B, .nonspacingMark), (0x1B74, .symbol), (0x1B7D, .punctuation),
  (0x1B7F, .unassigned), (0x1B80, .nonspacingMark), (0x1B82, .spacingMark),
  (0x1B83, .otherLetter), (0x1BA1, .spacingMark), (0x1BA2, .nonspacingMark),
  (0x1BA6, .spacingMark), (0x1BA8, .nonspacingMark), (0x1BAA, .spacingMark),
  (0x1BAB, .nonspacingMark), (0x1BAE, .otherLetter), (0x1BB0, .decimalDigit),
  (0x1BBA, .otherLetter), (0x1BE6, .nonspacingMark), (0x1BE7, .spacingMark),
  (0x1BE8, .nonspacingMark), (0x1BEA, .spacingMark), (0x1BED, .nonspacingMark),
  (0x1BEE, .spacingMark), (0x1BEF, .nonspacingMark), (0x1BF2, .spacingMark),
  (0x1BF4, .unassigned), (0x1BFC, .punctuation), (0x1C00, .otherLetter), (0x1C24, .spacingMark),
  (0x1C2C, .nonspacingMark), (0x1C34, .spacingMark), (0x1C36, .nonspacingMark),
  (0x1C38, .unassigned), (0x1C3B, .punctuation), (0x1C40, .decimalDigit), (0x1C4A, .unassigned),
  (0x1C4D, .otherLetter), (0x1C50, .decimalDigit), (0x1C5A, .otherLetter),
  (0x1C78, .modifierLetter), (0x1C7E, .punctuation), (0x1C80, .casedLetter),
  (0x1C89, .unassigned), (0x1C90, .casedLetter), (0x1CBB, .unassigned), (0x1CBD, .casedLetter),
  (0x1CC0, .punctuation), (0x1CC8, .unassigned), (0x1CD0, .nonspacingMark),
  (0x1CD3, .punctuation), (0x1CD4, .nonspacingMark), (0x1CE1, .spacingMark),
  (0x1CE2, .nonspacingMark), (0x1CE9, .otherLetter), (0x1CED, .nonspacingMark),
  (0x1CEE, .otherLetter), (0x1CF4, .nonspacingMark), (0x1CF5, .otherLetter),
  (0x1CF7, .spacingMark), (0x1CF8, .nonspacingMark), (0x1CFA, .otherLetter),
  (0x1CFB, .unassigned), (0x1D00, .casedLetter), (0x1D2C, .modifierLetter),
  (0x1D6B, .casedLetter), (0x1D78, .modifierLetter), (0x1D79, .casedLetter),
  (0x1D9B, .modifierLetter), (0x1DC0, .nonspacingMark), (0x1E00, .casedLetter),
  (0x1F16, .unassigned), (0x1F18, .casedLetter), (0x1F1E, .unassigned), (0x1F20, .casedLetter),
  (0x1F46, .unassigned), (0x1F48, .casedLetter), (0x1F4E, .unassigned), (0x1F50, .casedLetter),
  (0x1F58, .unassigned), (0x1F59, .casedLetter), (0x1F5A, .unassigned), (0x1F5B, .casedLetter),
  (0x1F5C, .unassigned), (0x1F5D, .casedLetter), (0x1F5E, .unassigned), (0x1F5F, .casedLetter),
  (0x1F7E, .unassigned), (0x1F80, .casedLetter), (0x1FB5, .unassigned), (0x1FB6, .casedLetter),
  (0x1FBD, .modifierSymbol), (0x1FBE, .casedLetter), (0x1FBF, .modifierSymbol),
  (0x1FC2, .casedLetter), (0x1FC5, .unassigned), (0x1FC6, .casedLetter),
  (0x1FCD, .modifierSymbol), (0x1FD0, .casedLetter), (0x1FD4, .unassigned),
  (0x1FD6, .casedLetter), (0x1FDC, .unassigned), (0x1FDD, .modifierSymbol),
  (0x1FE0, .casedLetter), (0x1FED, .modifierSymbol), (0x1FF0, .unassigned),
  (0x1FF2, .casedLetter), (0x1FF5, .unassigned), (0x1FF6, .casedLetter),
  (0x1FFD, .modifierSymbol), (0x1FFF, .unassigned), (0x2000, .space), (0x200B, .format),
  (0x2010, .punctuation), (0x2028, .separator), (0x202A, .format), (0x202F, .space),
  (0x2030, .punctuation), (0x203F, .connector), (0x2041, .punctuation), (0x2044, .symbol),
  (0x2045, .punctuation), (0x2052, .symbol), (0x2053, .punctuation), (0x2054, .connector),
  (0x2055, .punctuation), (0x205F, .space), (0x2060, .format), (0x2065, .unassigned),
  (0x2066, .format), (0x2070, .otherNumber), (0x2071, .modifierLetter), (0x2072, .unassigned),
  (0x2074, .otherNumber), (0x207A, .symbol), (0x207D, .punctuation), (0x207F, .modifierLetter),
  (0x2080, .otherNumber), (0x208A, .symbol), (0x208D, .punctuation), (0x208F, .unassigned),
  (0x2090, .modifierLetter), (0x209D, .unassigned), (0x20A0, .symbol), (0x20C1, .unassigned),
  (0x20D0, .nonspacingMark), (0x20DD, .enclosingMark), (0x20E1, .nonspacingMark),
  (0x20E2, .enclosingMark), (0x20E5, .nonspacingMark), (0x20F1, .unassigned), (0x2100, .symbol),
  (0x2102, .casedLetter), (0x2103, .symbol), (0x2107, .casedLetter), (0x2108, .symbol),
  (0x210A, .casedLetter), (0x2114, .symbol), (0x2115, .casedLetter), (0x2116, .symbol),
  (0x2119, .casedLetter), (0x211E, .symbol), (0x2124, .casedLetter), (0x2125, .symbol),
  (0x2126, .casedLetter), (0x2127, .symbol), (0x2128, .casedLetter), (0x2129, .symbol),
  (0x212A, .casedLetter), (0x212E, .symbol), (0x212F, .casedLetter), (0x2135, .otherLetter),
  (0x2139, .casedLetter), (0x213A, .symbol), (0x213C, .casedLetter), (0x2140, .symbol),
  (0x2145, .casedLetter), (0x214A, .symbol), (0x214E, .casedLetter), (0x214F, .symbol),
  (0x2150, .otherNumber), (0x2160, .letterNumber), (0x2183, .casedLetter),
  (0x2185, .letterNumber), (0x2189, .otherNumber), (0x218A, .symbol), (0x218C, .unassigned),
  (0x2190, .symbol), (0x2308, .punctuation), (0x230C, .symbol), (0x2329, .punctuation),
  (0x232B, .symbol), (0x2427, .unassigned), (0x2440, .symbol), (0x244B, .unassigned),
  (0x2460, .otherNumber), (0x249C, .symbol), (0x24EA, .otherNumber), (0x2500, .symbol),
  (0x2768, .punctuation), (0x2776, .otherNumber), (0x2794, .symbol), (0x27C5, .punctuation),
  (0x27C7, .symbol), (0x27E6, .punctuation), (0x27F0, .symbol), (0x2983, .punctuation),
  (0x2999, .symbol), (0x29D8, .punctuation), (0x29DC, .symbol), (0x29FC, .punctuation),
  (0x29FE, .symbol), (0x2B74, .unassigned), (0x2B76, .symbol), (0x2B96, .unassigned),
  (0x2B97, .symbol), (0x2C00, .casedLetter), (0x2C7C, .modifierLetter), (0x2C7E, .casedLetter),
  (0x2CE5, .symbol), (0x2CEB, .casedLetter), (0x2CEF, .nonspacingMark), (0x2CF2, .casedLetter),
  (0x2CF4, .unassigned), (0x2CF9, .punctuation), (0x2CFD, .otherNumber), (0x2CFE, .punctuation),
  (0x2D00, .casedLetter), (0x2D26, .unassigned), (0x2D27, .casedLetter), (0x2D28, .unassigned),
  (0x2D2D, .casedLetter), (0x2D2E, .unassigned), (0x2D30, .otherLetter), (0x2D68, .unassigned),
  (0x2D6F, .modifierLetter), (0x2D70, .punctuation), (0x2D71, .unassigned),
  (0x2D7F, .nonspacingMark), (0x2D80, .otherLetter), (0x2D97, .unassigned),
  (0x2DA0, .otherLetter), (0x2DA7, .unassigned), (0x2DA8, .otherLetter), (0x2DAF, .unassigned),
  (0x2DB0, .otherLetter), (0x2DB7, .unassigned), (0x2DB8, .otherLetter), (0x2DBF, .unassigned),
  (0x2DC0, .otherLetter), (0x2DC7, .unassigned), (0x2DC8, .otherLetter), (0x2DCF, .unassigned),
  (0x2DD0, .otherLetter), (0x2DD7, .unassigned), (0x2DD8, .otherLetter), (0x2DDF, .unassigned),
  (0x2DE0, .nonspacingMark), (0x2E00, .punctuation), (0x2E2F, .modifierLetter),
  (0x2E30, .punctuation), (0x2E50, .symbol), (0x2E52, .punctuation), (0x2E5E, .unassigned),
  (0x2E80, .symbol), (0x2E9A, .unassigned), (0x2E9B, .symbol), (0x2EF4, .unassigned),
  (0x2F00, .symbol), (0x2FD6, .unassigned), (0x2FF0, .symbol), (0x2FFC, .unassigned),
  (0x3000, .space), (0x3001, .punctuation), (0x3004, .symbol), (0x3005, .modifierLetter),
  (0x3006, .otherLetter), (0x3007, .letterNumber), (0x3008, .punctuation), (0x3012, .symbol),
  (0x3014, .punctuation), (0x3020, .symbol), (0x3021, .letterNumber), (0x302A, .nonspacingMark),
  (0x302E, .spacingMark), (0x3030, .punctuation), (0x3031, .modifierLetter), (0x3036, .symbol),
  (0x3038, .letterNumber), (0x303B, .modifierLetter), (0x303C, .otherLetter),
  (0x303D, .punctuation), (0x303E, .symbol), (0x3040, .unassigned), (0x3041, .otherLetter),
  (0x3097, .unassigned), (0x3099, .nonspacingMark), (0x309B, .modifierSymbol),
  (0x309D, .modifierLetter), (0x309F, .otherLetter), (0x30A0, .punctuation),
  (0x30A1, .otherLetter), (0x30FB, .punctuation), (0x30FC, .modifierLetter),
  (0x30FF, .otherLetter), (0x3100, .unassigned), (0x3105, .otherLetter), (0x3130, .unassigned),
  (0x3131, .otherLetter), (0x318F, .unassigned), (0x3190, .symbol), (0x3192, .otherNumber),
  (0x3196, .symbol), (0x31A0, .otherLetter), (0x31C0, .symbol), (0x31E4, .unassigned),
  (0x31F0, .otherLetter), (0x3200, .symbol), (0x321F, .unassigned), (0x3220, .otherNumber),
  (0x322A, .symbol), (0x3248, .otherNumber), (0x3250, .symbol), (0x3251, .otherNumber),
  (0x3260, .symbol), (0x3280, .otherNumber), (0x328A, .symbol), (0x32B1, .otherNumber),
  (0x32C0, .symbol), (0x3400, .otherLetter), (0x4DC0, .symbol), (0x4E00, .otherLetter),
  (0xA015, .modifierLetter), (0xA016, .otherLetter), (0xA48D, .unassigned), (0xA490, .symbol),
  (0xA4C7, .unassigned), (0xA4D0, .otherLetter), (0xA4F8, .modifierLetter),
  (0xA4FE, .punctuation), (0xA500, .otherLetter), (0xA60C, .modifierLetter),
  (0xA60D, .punctuation), (0xA610, .otherLetter), (0xA620, .decimalDigit),
  (0xA62A, .otherLetter), (0xA62C, .unassigned), (0xA640, .casedLetter), (0xA66E, .otherLetter),
  (0xA66F, .nonspacingMark), (0xA670, .enclosingMark), (0xA673, .punctuation),
  (0xA674, .nonspacingMark), (0xA67E, .punctuation), (0xA67F, .modifierLetter),
  (0xA680, .casedLetter), (0xA69C, .modifierLetter), (0xA69E, .nonspacingMark),
  (0xA6A0, .otherLetter), (0xA6E6, .letterNumber), (0xA6F0, .nonspacingMark),
  (0xA6F2, .punctuation), (0xA6F8, .unassigned), (0xA700, .modifierSymbol),
  (0xA717, .modifierLetter), (0xA720, .modifierSymbol), (0xA722, .casedLetter),
  (0xA770, .modifierLetter), (0xA771, .casedLetter), (0xA788, .modifierLetter),
  (0xA789, .modifierSymbol), (0xA78B, .casedLetter), (0xA78F, .otherLetter),
  (0xA790, .casedLetter), (0xA7CB, .unassigned), (0xA7D0, .casedLetter), (0xA7D2, .unassigned),
  (0xA7D3, .casedLetter), (0xA7D4, .unassigned), (0xA7D5, .casedLetter), (0xA7DA, .unassigned),
  (0xA7F2, .modifierLetter), (0xA7F5, .casedLetter), (0xA7F7, .otherLetter),
  (0xA7F8, .modifierLetter), (0xA7FA, .casedLetter), (0xA7FB, .otherLetter),
  (0xA802, .nonspacingMark), (0xA803, .otherLetter), (0xA806, .nonspacingMark),
  (0xA807, .otherLetter), (0xA80B, .nonspacingMark), (0xA80C, .otherLetter),
  (0xA823, .spacingMark), (0xA825, .nonspacingMark), (0xA827, .spacingMark), (0xA828, .symbol),
  (0xA82C, .nonspacingMark), (0xA82D, .unassigned), (0xA830, .otherNumber), (0xA836, .symbol),
  (0xA83A, .unassigned), (0xA840, .otherLetter), (0xA874, .punctuation), (0xA878, .unassigned),
  (0xA880, .spacingMark), (0xA882, .otherLetter), (0xA8B4, .spacingMark),
  (0xA8C4, .nonspacingMark), (0xA8C6, .unassigned), (0xA8CE, .punctuation),
  (0xA8D0, .decimalDigit), (0xA8DA, .unassigned), (0xA8E0, .nonspacingMark),
  (0xA8F2, .otherLetter), (0xA8F8, .punctuation), (0xA8FB, .otherLetter), (0xA8FC, .punctuation),
  (0xA8FD, .otherLetter), (0xA8FF, .nonspacingMark), (0xA900, .decimalDigit),
  (0xA90A, .otherLetter), (0xA926, .nonspacingMark), (0xA92E, .punctuation),
  (0xA930, .otherLetter), (0xA947, .nonspacingMark), (0xA952, .spacingMark),
  (0xA954, .unassigned), (0xA95F, .punctuation), (0xA960, .otherLetter), (0xA97D, .unassigned),
  (0xA980, .nonspacingMark), (0xA983, .spacingMark), (0xA984, .otherLetter),
  (0xA9B3, .nonspacingMark), (0xA9B4, .spacingMark), (0xA9B6, .nonspacingMark),
  (0xA9BA, .spacingMark), (0xA9BC, .nonspacingMark), (0xA9BE, .spacingMark),
  (0xA9C1, .punctuation), (0xA9CE, .unassigned), (0xA9CF, .modifierLetter),
  (0xA9D0, .decimalDigit), (0xA9DA, .unassigned), (0xA9DE, .punctuation), (0xA9E0, .otherLetter),
  (0xA9E5, .nonspacingMark), (0xA9E6, .modifierLetter), (0xA9E7, .otherLetter),
  (0xA9F0, .decimalDigit), (0xA9FA, .otherLetter), (0xA9FF, .unassigned), (0xAA00, .otherLetter),
  (0xAA29, .nonspacingMark), (0xAA2F, .spacingMark), (0xAA31, .nonspacingMark),
  (0xAA33, .spacingMark), (0xAA35, .nonspacingMark), (0xAA37, .unassigned),
  (0xAA40, .otherLetter), (0xAA43, .nonspacingMark), (0xAA44, .otherLetter),
  (0xAA4C, .nonspacingMark), (0xAA4D, .spacingMark), (0xAA4E, .unassigned),
  (0xAA50, .decimalDigit), (0xAA5A, .unassigned), (0xAA5C, .punctuation), (0xAA60, .otherLetter),
  (0xAA70, .modifierLetter), (0xAA71, .otherLetter), (0xAA77, .symbol), (0xAA7A, .otherLetter),
  (0xAA7B, .spacingMark), (0xAA7C, .nonspacingMark), (0xAA7D, .spacingMark),
  (0xAA7E, .otherLetter), (0xAAB0, .nonspacingMark), (0xAAB1, .otherLetter),
  (0xAAB2, .nonspacingMark), (0xAAB5, .otherLetter), (0xAAB7, .nonspacingMark),
  (0xAAB9, .otherLetter), (0xAABE, .nonspacingMark), (0xAAC0, .otherLetter),
  (0xAAC1, .nonspacingMark), (0xAAC2, .otherLetter), (0xAAC3, .unassigned),
  (0xAADB, .otherLetter), (0xAADD, .modifierLetter), (0xAADE, .punctuation),
  (0xAAE0, .otherLetter), (0xAAEB, .spacingMark), (0xAAEC, .nonspacingMark),
  (0xAAEE, .spacingMark), (0xAAF0, .punctuation), (0xAAF2, .otherLetter),
  (0xAAF3, .modifierLetter), (0xAAF5, .spacingMark), (0xAAF6, .nonspacingMark),
  (0xAAF7, .unassigned), (0xAB01, .otherLetter), (0xAB07, .unassigned), (0xAB09, .otherLetter),
  (0xAB0F, .unassigned), (0xAB11, .otherLetter), (0xAB17, .unassigned), (0xAB20, .otherLetter),
  (0xAB27, .unassigned), (0xAB28, .otherLetter), (0xAB2F, .unassigned), (0xAB30, .casedLetter),
  (0xAB5B, .modifierSymbol), (0xAB5C, .modifierLetter), (0xAB60, .casedLetter),
  (0xAB69, .modifierLetter), (0xAB6A, .modifierSymbol), (0xAB6C, .unassigned),
  (0xAB70, .casedLetter), (0xABC0, .otherLetter), (0xABE3, .spacingMark),
  (0xABE5, .nonspacingMark), (0xABE6, .spacingMark), (0xABE8, .nonspacingMark),
  (0xABE9, .spacingMark), (0xABEB, .punctuation), (0xABEC, .spacingMark),
  (0xABED, .nonspacingMark), (0xABEE, .unassigned), (0xABF0, .decimalDigit),
  (0xABFA, .unassigned), (0xAC00, .otherLetter), (0xD7A4, .unassigned), (0xD7B0, .otherLetter),
  (0xD7C7, .unassigned), (0xD7CB, .otherLetter), (0xD7FC, .unassigned), (0xF900, .otherLetter),
  (0xFA6E, .unassigned), (0xFA70, .otherLetter), (0xFADA, .unassigned), (0xFB00, .casedLetter),
  (0xFB07, .unassigned), (0xFB13, .casedLetter), (0xFB18, .unassigned), (0xFB1D, .otherLetter),
  (0xFB1E, .nonspacingMark), (0xFB1F, .otherLetter), (0xFB29, .symbol), (0xFB2A, .otherLetter),
  (0xFB37, .unassigned), (0xFB38, .otherLetter), (0xFB3D, .unassigned), (0xFB3E, .otherLetter),
  (0xFB3F, .unassigned), (0xFB40, .otherLetter), (0xFB42, .unassigned), (0xFB43, .otherLetter),
  (0xFB45, .unassigned), (0xFB46, .otherLetter), (0xFBB2, .modifierSymbol),
  (0xFBC3, .unassigned), (0xFBD3, .otherLetter), (0xFD3E, .punctuation), (0xFD40, .symbol),
  (0xFD50, .otherLetter), (0xFD90, .unassigned), (0xFD92, .otherLetter), (0xFDC8, .unassigned),
  (0xFDCF, .symbol), (0xFDD0, .unassigned), (0xFDF0, .otherLetter), (0xFDFC, .symbol),
  (0xFE00, .nonspacingMark), (0xFE10, .punctuation), (0xFE1A, .unassigned),
  (0xFE20, .nonspacingMark), (0xFE30, .punctuation), (0xFE33, .connector),
  (0xFE35, .punctuation), (0xFE4D, .connector), (0xFE50, .punctuation), (0xFE53, .unassigned),
  (0xFE54, .punctuation), (0xFE62, .symbol), (0xFE63, .punctuation), (0xFE64, .symbol),
  (0xFE67, .unassigned), (0xFE68, .punctuation), (0xFE69, .symbol), (0xFE6A, .punctuation),
  (0xFE6C, .unassigned), (0xFE70, .otherLetter), (0xFE75, .unassigned), (0xFE76, .otherLetter),
  (0xFEFD, .unassigned), (0xFEFF, .format), (0xFF00, .unassigned), (0xFF01, .punctuation),
  (0xFF04, .symbol), (0xFF05, .punctuation), (0xFF0B, .symbol), (0xFF0C, .punctuation),
  (0xFF10, .decimalDigit), (0xFF1A, .punctuation), (0xFF1C, .symbol), (0xFF1F, .punctuation),
  (0xFF21, .casedLetter), (0xFF3B, .punctuation), (0xFF3E, .modifierSymbol),
  (0xFF3F, .connector), (0xFF40, .modifierSymbol), (0xFF41, .casedLetter),
  (0xFF5B, .punctuation), (0xFF5C, .symbol), (0xFF5D, .punctuation), (0xFF5E, .symbol),
  (0xFF5F, .punctuation), (0xFF66, .otherLetter), (0xFF70, .modifierLetter),
  (0xFF71, .otherLetter), (0xFF9E, .modifierLetter), (0xFFA0, .otherLetter),
  (0xFFBF, .unassigned), (0xFFC2, .otherLetter), (0xFFC8, .unassigned), (0xFFCA, .otherLetter),
  (0xFFD0, .unassigned), (0xFFD2, .otherLetter), (0xFFD8, .unassigned), (0xFFDA, .otherLetter),
  (0xFFDD, .unassigned), (0xFFE0, .symbol), (0xFFE3, .modifierSymbol), (0xFFE4, .symbol),
  (0xFFE7, .unassigned), (0xFFE8, .symbol), (0xFFEF, .unassigned), (0xFFF9, .format),
  (0xFFFC, .symbol), (0xFFFE, .unassigned), (0x10000, .otherLetter), (0x1000C, .unassigned),
  (0x1000D, .otherLetter), (0x10027, .unassigned), (0x10028, .otherLetter),
  (0x1003B, .unassigned), (0x1003C, .otherLetter), (0x1003E, .unassigned),
  (0x1003F, .otherLetter), (0x1004E, .unassigned), (0x10050, .otherLetter),
  (0x1005E, .unassigned), (0x10080, .otherLetter), (0x100FB, .unassigned),
  (0x10100, .punctuation), (0x10103, .unassigned), (0x10107, .otherNumber),
  (0x10134, .unassigned), (0x10137, .symbol), (0x10140, .letterNumber), (0x10175, .otherNumber),
  (0x10179, .symbol), (0x1018A, .otherNumber), (0x1018C, .symbol), (0x1018F, .unassigned),
  (0x10190, .symbol), (0x1019D, .unassigned), (0x101A0, .symbol), (0x101A1, .unassigned),
  (0x101D0, .symbol), (0x101FD, .nonspacingMark), (0x101FE, .unassigned),
  (0x10280, .otherLetter), (0x1029D, .unassigned), (0x102A0, .otherLetter),
  (0x102D1, .unassigned), (0x102E0, .nonspacingMark), (0x102E1, .otherNumber),
  (0x102FC, .unassigned), (0x10300, .otherLetter), (0x10320, .otherNumber),
  (0x10324, .unassigned), (0x1032D, .otherLetter), (0x10341, .letterNumber),
  (0x10342, .otherLetter), (0x1034A, .letterNumber), (0x1034B, .unassigned),
  (0x10350, .otherLetter), (0x10376, .nonspacingMark), (0x1037B, .unassigned),
  (0x10380, .otherLetter), (0x1039E, .unassigned), (0x1039F, .punctuation),
  (0x103A0, .otherLetter), (0x103C4, .unassigned), (0x103C8, .otherLetter),
  (0x103D0, .punctuation), (0x103D1, .letterNumber), (0x103D6, .unassigned),
  (0x10400, .casedLetter), (0x10450, .otherLetter), (0x1049E, .unassigned),
  (0x104A0, .decimalDigit), (0x104AA, .unassigned), (0x104B0, .casedLetter),
  (0x104D4, .unassigned), (0x104D8, .casedLetter), (0x104FC, .unassigned),
  (0x10500, .otherLetter), (0x10528, .unassigned), (0x10530, .otherLetter),
  (0x10564, .unassigned), (0x1056F, .punctuation), (0x10570, .casedLetter),
  (0x1057B, .unassigned), (0x1057C, .casedLetter), (0x1058B, .unassigned),
  (0x1058C, .casedLetter), (0x10593, .unassigned), (0x10594, .casedLetter),
  (0x10596, .unassigned), (0x10597, .casedLetter), (0x105A2, .unassigned),
  (0x105A3, .casedLetter), (0x105B2, .unassigned), (0x105B3, .casedLetter),
  (0x105BA, .unassigned), (0x105BB, .casedLetter), (0x105BD, .unassigned),
  (0x10600, .otherLetter), (0x10737, .unassigned), (0x10740, .otherLetter),
  (0x10756, .unassigned), (0x10760, .otherLetter), (0x10768, .unassigned),
  (0x10780, .modifierLetter), (0x10786, .unassigned), (0x10787, .modifierLetter),
  (0x107B1, .unassigned), (0x107B2, .modifierLetter), (0x107BB, .unassigned),
  (0x10800, .otherLetter), (0x10806, .unassigned), (0x10808, .otherLetter),
  (0x10809, .unassigned), (0x1080A, .otherLetter), (0x10836, .unassigned),
  (0x10837, .otherLetter), (0x10839, .unassigned), (0x1083C, .otherLetter),
  (0x1083D, .unassigned), (0x1083F, .otherLetter), (0x10856, .unassigned),
  (0x10857, .punctuation), (0x10858, .otherNumber), (0x10860, .otherLetter), (0x10877, .symbol),
  (0x10879, .otherNumber), (0x10880, .otherLetter), (0x1089F, .unassigned),
  (0x108A7, .otherNumber), (0x108B0, .unassigned), (0x108E0, .otherLetter),
  (0x108F3, .unassigned), (0x108F4, .otherLetter), (0x108F6, .unassigned),
  (0x108FB, .otherNumber), (0x10900, .otherLetter), (0x10916, .otherNumber),
  (0x1091C, .unassigned), (0x1091F, .punctuation), (0x10920, .otherLetter),
  (0x1093A, .unassigned), (0x1093F, .punctuation), (0x10940, .unassigned),
  (0x10980, .otherLetter), (0x109B8, .unassigned), (0x109BC, .otherNumber),
  (0x109BE, .otherLetter), (0x109C0, .otherNumber), (0x109D0, .unassigned),
  (0x109D2, .otherNumber), (0x10A00, .otherLetter), (0x10A01, .nonspacingMark),
  (0x10A04, .unassigned), (0x10A05, .nonspacingMark), (0x10A07, .unassigned),
  (0x10A0C, .nonspacingMark), (0x10A10, .otherLetter), (0x10A14, .unassigned),
  (0x10A15, .otherLetter), (0x10A18, .unassigned), (0x10A19, .otherLetter),
  (0x10A36, .unassigned), (0x10A38, .nonspacingMark), (0x10A3B, .unassigned),
  (0x10A3F, .nonspacingMark), (0x10A40, .otherNumber), (0x10A49, .unassigned),
  (0x10A50, .punctuation), (0x10A59, .unassigned), (0x10A60, .otherLetter),
  (0x10A7D, .otherNumber), (0x10A7F, .punctuation), (0x10A80, .otherLetter),
  (0x10A9D, .otherNumber), (0x10AA0, .unassigned), (0x10AC0, .otherLetter), (0x10AC8, .symbol),
  (0x10AC9, .otherLetter), (0x10AE5, .nonspacingMark), (0x10AE7, .unassigned),
  (0x10AEB, .otherNumber), (0x10AF0, .punctuation), (0x10AF7, .unassigned),
  (0x10B00, .otherLetter), (0x10B36, .unassigned), (0x10B39, .punctuation),
  (0x10B40, .otherLetter), (0x10B56, .unassigned), (0x10B58, .otherNumber),
  (0x10B60, .otherLetter), (0x10B73, .unassigned), (0x10B78, .otherNumber),
  (0x10B80, .otherLetter), (0x10B92, .unassigned), (0x10B99, .punctuation),
  (0x10B9D, .unassigned), (0x10BA9, .otherNumber), (0x10BB0, .unassigned),
  (0x10C00, .otherLetter), (0x10C49, .unassigned), (0x10C80, .casedLetter),
  (0x10CB3, .unassigned), (0x10CC0, .casedLetter), (0x10CF3, .unassigned),
  (0x10CFA, .otherNumber), (0x10D00, .otherLetter), (0x10D24, .nonspacingMark),
  (0x10D28, .unassigned), (0x10D30, .decimalDigit), (0x10D3A, .unassigned),
  (0x10E60, .otherNumber), (0x10E7F, .unassigned), (0x10E80, .otherLetter),
  (0x10EAA, .unassigned), (0x10EAB, .nonspacingMark), (0x10EAD, .punctuation),
  (0x10EAE, .unassigned), (0x10EB0, .otherLetter), (0x10EB2, .unassigned),
  (0x10F00, .otherLetter), (0x10F1D, .otherNumber), (0x10F27, .otherLetter),
  (0x10F28, .unassigned), (0x10F30, .otherLetter), (0x10F46, .nonspacingMark),
  (0x10F51, .otherNumber), (0x10F55, .punctuation), (0x10F5A, .unassigned),
  (0x10F70, .otherLetter), (0x10F82, .nonspacingMark), (0x10F86, .punctuation),
  (0x10F8A, .unassigned), (0x10FB0, .otherLetter), (0x10FC5, .otherNumber),
  (0x10FCC, .unassigned), (0x10FE0, .otherLetter), (0x10FF7, .unassigned),
  (0x11000, .spacingMark), (0x11001, .nonspacingMark), (0x11002, .spacingMark),
  (0x11003, .otherLetter), (0x11038, .nonspacingMark), (0x11047, .punctuation),
  (0x1104E, .unassigned), (0x11052, .otherNumber), (0x11066, .decimalDigit),
  (0x11070, .nonspacingMark), (0x11071, .otherLetter), (0x11073, .nonspacingMark),
  (0x11075, .otherLetter), (0x11076, .unassigned), (0x1107F, .nonspacingMark),
  (0x11082, .spacingMark), (0x11083, .otherLetter), (0x110B0, .spacingMark),
  (0x110B3, .nonspacingMark), (0x110B7, .spacingMark), (0x110B9, .nonspacingMark),
  (0x110BB, .punctuation), (0x110BD, .format), (0x110BE, .punctuation),
  (0x110C2, .nonspacingMark), (0x110C3, .unassigned), (0x110CD, .format), (0x110CE, .unassigned),
  (0x110D0, .otherLetter), (0x110E9, .unassigned), (0x110F0, .decimalDigit),
  (0x110FA, .unassigned), (0x11100, .nonspacingMark), (0x11103, .otherLetter),
  (0x11127, .nonspacingMark), (0x1112C, .spacingMark), (0x1112D, .nonspacingMark),
  (0x11135, .unassigned), (0x11136, .decimalDigit), (0x11140, .punctuation),
  (0x11144, .otherLetter), (0x11145, .spacingMark), (0x11147, .otherLetter),
  (0x11148, .unassigned), (0x11150, .otherLetter), (0x11173, .nonspacingMark),
  (0x11174, .punctuation), (0x11176, .otherLetter), (0x11177, .unassigned),
  (0x11180, .nonspacingMark), (0x11182, .spacingMark), (0x11183, .otherLetter),
  (0x111B3, .spacingMark), (0x111B6, .nonspacingMark), (0x111BF, .spacingMark),
  (0x111C1, .otherLetter), (0x111C5, .punctuation), (0x111C9, .nonspacingMark),
  (0x111CD, .punctuation), (0x111CE, .spacingMark), (0x111CF, .nonspacingMark),
  (0x111D0, .decimalDigit), (0x111DA, .otherLetter), (0x111DB, .punctuation),
  (0x111DC, .otherLetter), (0x111DD, .punctuation), (0x111E0, .unassigned),
  (0x111E1, .otherNumber), (0x111F5, .unassigned), (0x11200, .otherLetter),
  (0x11212, .unassigned), (0x11213, .otherLetter), (0x1122C, .spacingMark),
  (0x1122F, .nonspacingMark), (0x11232, .spacingMark), (0x11234, .nonspacingMark),
  (0x11235, .spacingMark), (0x11236, .nonspacingMark), (0x11238, .punctuation),
  (0x1123E, .nonspacingMark), (0x1123F, .unassigned), (0x11280, .otherLetter),
  (0x11287, .unassigned), (0x11288, .otherLetter), (0x11289, .unassigned),
  (0x1128A, .otherLetter), (0x1128E, .unassigned), (0x1128F, .otherLetter),
  (0x1129E, .unassigned), (0x1129F, .otherLetter), (0x112A9, .punctuation),
  (0x112AA, .unassigned), (0x112B0, .otherLetter), (0x112DF, .nonspacingMark),
  (0x112E0, .spacingMark), (0x112E3, .nonspacingMark), (0x112EB, .unassigned),
  (0x112F0, .decimalDigit), (0x112FA, .unassigned), (0x11300, .nonspacingMark),
  (0x11302, .spacingMark), (0x11304, .unassigned), (0x11305, .otherLetter),
  (0x1130D, .unassigned), (0x1130F, .otherLetter), (0x11311, .unassigned),
  (0x11313, .otherLetter), (0x11329, .unassigned), (0x1132A, .otherLetter),
  (0x11331, .unassigned), (0x11332, .otherLetter), (0x11334, .unassigned),
  (0x11335, .otherLetter), (0x1133A, .unassigned), (0x1133B, .nonspacingMark),
  (0x1133D, .otherLetter), (0x1133E, .spacingMark), (0x11340, .nonspacingMark),
  (0x11341, .spacingMark), (0x11345, .unassigned), (0x11347, .spacingMark),
  (0x11349, .unassigned), (0x1134B, .spacingMark), (0x1134E, .unassigned),
  (0x11350, .otherLetter), (0x11351, .unassigned), (0x11357, .spacingMark),
  (0x11358, .unassigned), (0x1135D, .otherLetter), (0x11362, .spacingMark),
  (0x11364, .unassigned), (0x11366, .nonspacingMark), (0x1136D, .unassigned),
  (0x11370, .nonspacingMark), (0x11375, .unassigned), (0x11400, .otherLetter),
  (0x11435, .spacingMark), (0x11438, .nonspacingMark), (0x11440, .spacingMark),
  (0x11442, .nonspacingMark), (0x11445, .spacingMark), (0x11446, .nonspacingMark),
  (0x11447, .otherLetter), (0x1144B, .punctuation), (0x11450, .decimalDigit),
  (0x1145A, .punctuation), (0x1145C, .unassigned), (0x1145D, .punctuation),
  (0x1145E, .nonspacingMark), (0x1145F, .otherLetter), (0x11462, .unassigned),
  (0x11480, .otherLetter), (0x114B0, .spacingMark), (0x114B3, .nonspacingMark),
  (0x114B9, .spacingMark), (0x114BA, .nonspacingMark), (0x114BB, .spacingMark),
  (0x114BF, .nonspacingMark), (0x114C1, .spacingMark), (0x114C2, .nonspacingMark),
  (0x114C4, .otherLetter), (0x114C6, .punctuation), (0x114C7, .otherLetter),
  (0x114C8, .unassigned), (0x114D0, .decimalDigit), (0x114DA, .unassigned),
  (0x11580, .otherLetter), (0x115AF, .spacingMark), (0x115B2, .nonspacingMark),
  (0x115B6, .unassigned), (0x115B8, .spacingMark), (0x115BC, .nonspacingMark),
  (0x115BE, .spacingMark), (0x115BF, .nonspacingMark), (0x115C1, .punctuation),
  (0x115D8, .otherLetter), (0x115DC, .nonspacingMark), (0x115DE, .unassigned),
  (0x11600, .otherLetter), (0x11630, .spacingMark), (0x11633, .nonspacingMark),
  (0x1163B, .spacingMark), (0x1163D, .nonspacingMark), (0x1163E, .spacingMark),
  (0x1163F, .nonspacingMark), (0x11641, .punctuation), (0x11644, .otherLetter),
  (0x11645, .unassigned), (0x11650, .decimalDigit), (0x1165A, .unassigned),
  (0x11660, .punctuation), (0x1166D, .unassigned), (0x11680, .otherLetter),
  (0x116AB, .nonspacingMark), (0x116AC, .spacingMark), (0x116AD, .nonspacingMark),
  (0x116AE, .spacingMark), (0x116B0, .nonspacingMark), (0x116B6, .spacingMark),
  (0x116B7, .nonspacingMark), (0x116B8, .otherLetter), (0x116B9, .punctuation),
  (0x116BA, .unassigned), (0x116C0, .decimalDigit), (0x116CA, .unassigned),
  (0x11700, .otherLetter), (0x1171B, .unassigned), (0x1171D, .nonspacingMark),
  (0x11720, .spacingMark), (0x11722, .nonspacingMark), (0x11726, .spacingMark),
  (0x11727, .nonspacingMark), (0x1172C, .unassigned), (0x11730, .decimalDigit),
  (0x1173A, .otherNumber), (0x1173C, .punctuation), (0x1173F, .symbol), (0x11740, .otherLetter),
  (0x11747, .unassigned), (0x11800, .otherLetter), (0x1182C, .spacingMark),
  (0x1182F, .nonspacingMark), (0x11838, .spacingMark), (0x11839, .nonspacingMark),
  (0x1183B, .punctuation), (0x1183C, .unassigned), (0x118A0, .casedLetter),
  (0x118E0, .decimalDigit), (0x118EA, .otherNumber), (0x118F3, .unassigned),
  (0x118FF, .otherLetter), (0x11907, .unassigned), (0x11909, .otherLetter),
  (0x1190A, .unassigned), (0x1190C, .otherLetter), (0x11914, .unassigned),
  (0x11915, .otherLetter), (0x11917, .unassigned), (0x11918, .otherLetter),
  (0x11930, .spacingMark), (0x11936, .unassigned), (0x11937, .spacingMark),
  (0x11939, .unassigned), (0x1193B, .nonspacingMark), (0x1193D, .spacingMark),
  (0x1193E, .nonspacingMark), (0x1193F, .otherLetter), (0x11940, .spacingMark),
  (0x11941, .otherLetter), (0x11942, .spacingMark), (0x11943, .nonspacingMark),
  (0x11944, .punctuation), (0x11947, .unassigned), (0x11950, .decimalDigit),
  (0x1195A, .unassigned), (0x119A0, .otherLetter), (0x119A8, .unassigned),
  (0x119AA, .otherLetter), (0x119D1, .spacingMark), (0x119D4, .nonspacingMark),
  (0x119D8, .unassigned), (0x119DA, .nonspacingMark), (0x119DC, .spacingMark),
  (0x119E0, .nonspacingMark), (0x119E1, .otherLetter), (0x119E2, .punctuation),
  (0x119E3, .otherLetter), (0x119E4, .spacingMark), (0x119E5, .unassigned),
  (0x11A00, .otherLetter), (0x11A01, .nonspacingMark), (0x11A0B, .otherLetter),
  (0x11A33, .nonspacingMark), (0x11A39, .spacingMark), (0x11A3A, .otherLetter),
  (0x11A3B, .nonspacingMark), (0x11A3F, .punctuation), (0x11A47, .nonspacingMark),
  (0x11A48, .unassigned), (0x11A50, .otherLetter), (0x11A51, .nonspacingMark),
  (0x11A57, .spacingMark), (0x11A59, .nonspacingMark), (0x11A5C, .otherLetter),
  (0x11A8A, .nonspacingMark), (0x11A97, .spacingMark), (0x11A98, .nonspacingMark),
  (0x11A9A, .punctuation), (0x11A9D, .otherLetter), (0x11A9E, .punctuation),
  (0x11AA3, .unassigned), (0x11AB0, .otherLetter), (0x11AF9, .unassigned),
  (0x11C00, .otherLetter), (0x11C09, .unassigned), (0x11C0A, .otherLetter),
  (0x11C2F, .spacingMark), (0x11C30, .nonspacingMark), (0x11C37, .unassigned),
  (0x11C38, .nonspacingMark), (0x11C3E, .spacingMark), (0x11C3F, .nonspacingMark),
  (0x11C40, .otherLetter), (0x11C41, .punctuation), (0x11C46, .unassigned),
  (0x11C50, .decimalDigit), (0x11C5A, .otherNumber), (0x11C6D, .unassigned),
  (0x11C70, .punctuation), (0x11C72, .otherLetter), (0x11C90, .unassigned),
  (0x11C92, .nonspacingMark), (0x11CA8, .unassigned), (0x11CA9, .spacingMark),
  (0x11CAA, .nonspacingMark), (0x11CB1, .spacingMark), (0x11CB2, .nonspacingMark),
  (0x11CB4, .spacingMark), (0x11CB5, .nonspacingMark), (0x11CB7, .unassigned),
  (0x11D00, .otherLetter), (0x11D07, .unassigned), (0x11D08, .otherLetter),
  (0x11D0A, .unassigned), (0x11D0B, .otherLetter), (0x11D31, .nonspacingMark),
  (0x11D37, .unassigned), (0x11D3A, .nonspacingMark), (0x11D3B, .unassigned),
  (0x11D3C, .nonspacingMark), (0x11D3E, .unassigned), (0x11D3F, .nonspacingMark),
  (0x11D46, .otherLetter), (0x11D47, .nonspacingMark), (0x11D48, .unassigned),
  (0x11D50, .decimalDigit), (0x11D5A, .unassigned), (0x11D60, .otherLetter),
  (0x11D66, .unassigned), (0x11D67, .otherLetter), (0x11D69, .unassigned),
  (0x11D6A, .otherLetter), (0x11D8A, .spacingMark), (0x11D8F, .unassigned),
  (0x11D90, .nonspacingMark), (0x11D92, .unassigned), (0x11D93, .spacingMark),
  (0x11D95, .nonspacingMark), (0x11D96, .spacingMark), (0x11D97, .nonspacingMark),
  (0x11D98, .otherLetter), (0x11D99, .unassigned), (0x11DA0, .decimalDigit),
  (0x11DAA, .unassigned), (0x11EE0, .otherLetter), (0x11EF3, .nonspacingMark),
  (0x11EF5, .spacingMark), (0x11EF7, .punctuation), (0x11EF9, .unassigned),
  (0x11FB0, .otherLetter), (0x11FB1, .unassigned), (0x11FC0, .otherNumber), (0x11FD5, .symbol),
  (0x11FF2, .unassigned), (0x11FFF, .punctuation), (0x12000, .otherLetter),
  (0x1239A, .unassigned), (0x12400, .letterNumber), (0x1246F, .unassigned),
  (0x12470, .punctuation), (0x12475, .unassigned), (0x12480, .otherLetter),
  (0x12544, .unassigned), (0x12F90, .otherLetter), (0x12FF1, .punctuation),
  (0x12FF3, .unassigned), (0x13000, .otherLetter), (0x1342F, .unassigned), (0x13430, .format),
  (0x13439, .unassigned), (0x14400, .otherLetter), (0x14647, .unassigned),
  (0x16800, .otherLetter), (0x16A39, .unassigned), (0x16A40, .otherLetter),
  (0x16A5F, .unassigned), (0x16A60, .decimalDigit), (0x16A6A, .unassigned),
  (0x16A6E, .punctuation), (0x16A70, .otherLetter), (0x16ABF, .unassigned),
  (0x16AC0, .decimalDigit), (0x16ACA, .unassigned), (0x16AD0, .otherLetter),
  (0x16AEE, .unassigned), (0x16AF0, .nonspacingMark), (0x16AF5, .punctuation),
  (0x16AF6, .unassigned), (0x16B00, .otherLetter), (0x16B30, .nonspacingMark),
  (0x16B37, .punctuation), (0x16B3C, .symbol), (0x16B40, .modifierLetter),
  (0x16B44, .punctuation), (0x16B45, .symbol), (0x16B46, .unassigned), (0x16B50, .decimalDigit),
  (0x16B5A, .unassigned), (0x16B5B, .otherNumber), (0x16B62, .unassigned),
  (0x16B63, .otherLetter), (0x16B78, .unassigned), (0x16B7D, .otherLetter),
  (0x16B90, .unassigned), (0x16E40, .casedLetter), (0x16E80, .otherNumber),
  (0x16E97, .punctuation), (0x16E9B, .unassigned), (0x16F00, .otherLetter),
  (0x16F4B, .unassigned), (0x16F4F, .nonspacingMark), (0x16F50, .otherLetter),
  (0x16F51, .spacingMark), (0x16F88, .unassigned), (0x16F8F, .nonspacingMark),
  (0x16F93, .modifierLetter), (0x16FA0, .unassigned), (0x16FE0, .modifierLetter),
  (0x16FE2, .punctuation), (0x16FE3, .modifierLetter), (0x16FE4, .nonspacingMark),
  (0x16FE5, .unassigned), (0x16FF0, .spacingMark), (0x16FF2, .unassigned),
  (0x17000, .otherLetter), (0x187F8, .unassigned), (0x18800, .otherLetter),
  (0x18CD6, .unassigned), (0x18D00, .otherLetter), (0x18D09, .unassigned),
  (0x1AFF0, .modifierLetter), (0x1AFF4, .unassigned), (0x1AFF5, .modifierLetter),
  (0x1AFFC, .unassigned), (0x1AFFD, .modifierLetter), (0x1AFFF, .unassigned),
  (0x1B000, .otherLetter), (0x1B123, .unassigned), (0x1B150, .otherLetter),
  (0x1B153, .unassigned), (0x1B164, .otherLetter), (0x1B168, .unassigned),
  (0x1B170, .otherLetter), (0x1B2FC, .unassigned), (0x1BC00, .otherLetter),
  (0x1BC6B, .unassigned), (0x1BC70, .otherLetter), (0x1BC7D, .unassigned),
  (0x1BC80, .otherLetter), (0x1BC89, .unassigned), (0x1BC90, .otherLetter),
  (0x1BC9A, .unassigned), (0x1BC9C, .symbol), (0x1BC9D, .nonspacingMark),
  (0x1BC9F, .punctuation), (0x1BCA0, .format), (0x1BCA4, .unassigned),
  (0x1CF00, .nonspacingMark), (0x1CF2E, .unassigned), (0x1CF30, .nonspacingMark),
  (0x1CF47, .unassigned), (0x1CF50, .symbol), (0x1CFC4, .unassigned), (0x1D000, .symbol),
  (0x1D0F6, .unassigned), (0x1D100, .symbol), (0x1D127, .unassigned), (0x1D129, .symbol),
  (0x1D165, .spacingMark), (0x1D167, .nonspacingMark), (0x1D16A, .symbol),
  (0x1D16D, .spacingMark), (0x1D173, .format), (0x1D17B, .nonspacingMark), (0x1D183, .symbol),
  (0x1D185, .nonspacingMark), (0x1D18C, .symbol), (0x1D1AA, .nonspacingMark), (0x1D1AE, .symbol),
  (0x1D1EB, .unassigned), (0x1D200, .symbol), (0x1D242, .nonspacingMark), (0x1D245, .symbol),
  (0x1D246, .unassigned), (0x1D2E0, .otherNumber), (0x1D2F4, .unassigned), (0x1D300, .symbol),
  (0x1D357, .unassigned), (0x1D360, .otherNumber), (0x1D379, .unassigned),
  (0x1D400, .casedLetter), (0x1D455, .unassigned), (0x1D456, .casedLetter),
  (0x1D49D, .unassigned), (0x1D49E, .casedLetter), (0x1D4A0, .unassigned),
  (0x1D4A2, .casedLetter), (0x1D4A3, .unassigned), (0x1D4A5, .casedLetter),
  (0x1D4A7, .unassigned), (0x1D4A9, .casedLetter), (0x1D4AD, .unassigned),
  (0x1D4AE, .casedLetter), (0x1D4BA, .unassigned), (0x1D4BB, .casedLetter),
  (0x1D4BC, .unassigned), (0x1D4BD, .casedLetter), (0x1D4C4, .unassigned),
  (0x1D4C5, .casedLetter), (0x1D506, .unassigned), (0x1D507, .casedLetter),
  (0x1D50B, .unassigned), (0x1D50D, .casedLetter), (0x1D515, .unassigned),
  (0x1D516, .casedLetter), (0x1D51D, .unassigned), (0x1D51E, .casedLetter),
  (0x1D53A, .unassigned), (0x1D53B, .casedLetter), (0x1D53F, .unassigned),
  (0x1D540, .casedLetter), (0x1D545, .unassigned), (0x1D546, .casedLetter),
  (0x1D547, .unassigned), (0x1D54A, .casedLetter), (0x1D551, .unassigned),
  (0x1D552, .casedLetter), (0x1D6A6, .unassigned), (0x1D6A8, .casedLetter), (0x1D6C1, .symbol),
  (0x1D6C2, .casedLetter), (0x1D6DB, .symbol), (0x1D6DC, .casedLetter), (0x1D6FB, .symbol),
  (0x1D6FC, .casedLetter), (0x1D715, .symbol), (0x1D716, .casedLetter), (0x1D735, .symbol),
  (0x1D736, .casedLetter), (0x1D74F, .symbol), (0x1D750, .casedLetter), (0x1D76F, .symbol),
  (0x1D770, .casedLetter), (0x1D789, .symbol), (0x1D78A, .casedLetter), (0x1D7A9, .symbol),
  (0x1D7AA, .casedLetter), (0x1D7C3, .symbol), (0x1D7C4, .casedLetter), (0x1D7CC, .unassigned),
  (0x1D7CE, .decimalDigit), (0x1D800, .symbol), (0x1DA00, .nonspacingMark), (0x1DA37, .symbol),
  (0x1DA3B, .nonspacingMark), (0x1DA6D, .symbol), (0x1DA75, .nonspacingMark), (0x1DA76, .symbol),
  (0x1DA84, .nonspacingMark), (0x1DA85, .symbol), (0x1DA87, .punctuation),
  (0x1DA8C, .unassigned), (0x1DA9B, .nonspacingMark), (0x1DAA0, .unassigned),
  (0x1DAA1, .nonspacingMark), (0x1DAB0, .unassigned), (0x1DF00, .casedLetter),
  (0x1DF0A, .otherLetter), (0x1DF0B, .casedLetter), (0x1DF1F, .unassigned),
  (0x1E000, .nonspacingMark), (0x1E007, .unassigned), (0x1E008, .nonspacingMark),
  (0x1E019, .unassigned), (0x1E01B, .nonspacingMark), (0x1E022, .unassigned),
  (0x1E023, .nonspacingMark), (0x1E025, .unassigned), (0x1E026, .nonspacingMark),
  (0x1E02B, .unassigned), (0x1E100, .otherLetter), (0x1E12D, .unassigned),
  (0x1E130, .nonspacingMark), (0x1E137, .modifierLetter), (0x1E13E, .unassigned),
  (0x1E140, .decimalDigit), (0x1E14A, .unassigned), (0x1E14E, .otherLetter), (0x1E14F, .symbol),
  (0x1E150, .unassigned), (0x1E290, .otherLetter), (0x1E2AE, .nonspacingMark),
  (0x1E2AF, .unassigned), (0x1E2C0, .otherLetter), (0x1E2EC, .nonspacingMark),
  (0x1E2F0, .decimalDigit), (0x1E2FA, .unassigned), (0x1E2FF, .symbol), (0x1E300, .unassigned),
  (0x1E7E0, .otherLetter), (0x1E7E7, .unassigned), (0x1E7E8, .otherLetter),
  (0x1E7EC, .unassigned), (0x1E7ED, .otherLetter), (0x1E7EF, .unassigned),
  (0x1E7F0, .otherLetter), (0x1E7FF, .unassigned), (0x1E800, .otherLetter),
  (0x1E8C5, .unassigned), (0x1E8C7, .otherNumber), (0x1E8D0, .nonspacingMark),
  (0x1E8D7, .unassigned), (0x1E900, .casedLetter), (0x1E944, .nonspacingMark),
  (0x1E94B, .modifierLetter), (0x1E94C, .unassigned), (0x1E950, .decimalDigit),
  (0x1E95A, .unassigned), (0x1E95E, .punctuation), (0x1E960, .unassigned),
  (0x1EC71, .otherNumber), (0x1ECAC, .symbol), (0x1ECAD, .otherNumber), (0x1ECB0, .symbol),
  (0x1ECB1, .otherNumber), (0x1ECB5, .unassigned), (0x1ED01, .otherNumber), (0x1ED2E, .symbol),
  (0x1ED2F, .otherNumber), (0x1ED3E, .unassigned), (0x1EE00, .otherLetter),
  (0x1EE04, .unassigned), (0x1EE05, .otherLetter), (0x1EE20, .unassigned),
  (0x1EE21, .otherLetter), (0x1EE23, .unassigned), (0x1EE24, .otherLetter),
  (0x1EE25, .unassigned), (0x1EE27, .otherLetter), (0x1EE28, .unassigned),
  (0x1EE29, .otherLetter), (0x1EE33, .unassigned), (0x1EE34, .otherLetter),
  (0x1EE38, .unassigned), (0x1EE39, .otherLetter), (0x1EE3A, .unassigned),
  (0x1EE3B, .otherLetter), (0x1EE3C, .unassigned), (0x1EE42, .otherLetter),
  (0x1EE43, .unassigned), (0x1EE47, .otherLetter), (0x1EE48, .unassigned),
  (0x1EE49, .otherLetter), (0x1EE4A, .unassigned), (0x1EE4B, .otherLetter),
  (0x1EE4C, .unassigned), (0x1EE4D, .otherLetter), (0x1EE50, .unassigned),
  (0x1EE51, .otherLetter), (0x1EE53, .unassigned), (0x1EE54, .otherLetter),
  (0x1EE55, .unassigned), (0x1EE57, .otherLetter), (0x1EE58, .unassigned),
  (0x1EE59, .otherLetter), (0x1EE5A, .unassigned), (0x1EE5B, .otherLetter),
  (0x1EE5C, .unassigned), (0x1EE5D, .otherLetter), (0x1EE5E, .unassigned),
  (0x1EE5F, .otherLetter), (0x1EE60, .unassigned), (0x1EE61, .otherLetter),
  (0x1EE63, .unassigned), (0x1EE64, .otherLetter), (0x1EE65, .unassigned),
  (0x1EE67, .otherLetter), (0x1EE6B, .unassigned), (0x1EE6C, .otherLetter),
  (0x1EE73, .unassigned), (0x1EE74, .otherLetter), (0x1EE78, .unassigned),
  (0x1EE79, .otherLetter), (0x1EE7D, .unassigned), (0x1EE7E, .otherLetter),
  (0x1EE7F, .unassigned), (0x1EE80, .otherLetter), (0x1EE8A, .unassigned),
  (0x1EE8B, .otherLetter), (0x1EE9C, .unassigned), (0x1EEA1, .otherLetter),
  (0x1EEA4, .unassigned), (0x1EEA5, .otherLetter), (0x1EEAA, .unassigned),
  (0x1EEAB, .otherLetter), (0x1EEBC, .unassigned), (0x1EEF0, .symbol), (0x1EEF2, .unassigned),
  (0x1F000, .symbol), (0x1F02C, .unassigned), (0x1F030, .symbol), (0x1F094, .unassigned),
  (0x1F0A0, .symbol), (0x1F0AF, .unassigned), (0x1F0B1, .symbol), (0x1F0C0, .unassigned),
  (0x1F0C1, .symbol), (0x1F0D0, .unassigned), (0x1F0D1, .symbol), (0x1F0F6, .unassigned),
  (0x1F100, .otherNumber), (0x1F10D, .symbol), (0x1F1AE, .unassigned), (0x1F1E6, .symbol),
  (0x1F203, .unassigned), (0x1F210, .symbol), (0x1F23C, .unassigned), (0x1F240, .symbol),
  (0x1F249, .unassigned), (0x1F250, .symbol), (0x1F252, .unassigned), (0x1F260, .symbol),
  (0x1F266, .unassigned), (0x1F300, .symbol), (0x1F3FB, .modifierSymbol), (0x1F400, .symbol),
  (0x1F6D8, .unassigned), (0x1F6DD, .symbol), (0x1F6ED, .unassigned), (0x1F6F0, .symbol),
  (0x1F6FD, .unassigned), (0x1F700, .symbol), (0x1F774, .unassigned), (0x1F780, .symbol),
  (0x1F7D9, .unassigned), (0x1F7E0, .symbol), (0x1F7EC, .unassigned), (0x1F7F0, .symbol),
  (0x1F7F1, .unassigned), (0x1F800, .symbol), (0x1F80C, .unassigned), (0x1F810, .symbol),
  (0x1F848, .unassigned), (0x1F850, .symbol), (0x1F85A, .unassigned), (0x1F860, .symbol),
  (0x1F888, .unassigned), (0x1F890, .symbol), (0x1F8AE, .unassigned), (0x1F8B0, .symbol),
  (0x1F8B2, .unassigned), (0x1F900, .symbol), (0x1FA54, .unassigned), (0x1FA60, .symbol),
  (0x1FA6E, .unassigned), (0x1FA70, .symbol), (0x1FA75, .unassigned), (0x1FA78, .symbol),
  (0x1FA7D, .unassigned), (0x1FA80, .symbol), (0x1FA87, .unassigned), (0x1FA90, .symbol),
  (0x1FAAD, .unassigned), (0x1FAB0, .symbol), (0x1FABB, .unassigned), (0x1FAC0, .symbol),
  (0x1FAC6, .unassigned), (0x1FAD0, .symbol), (0x1FADA, .unassigned), (0x1FAE0, .symbol),
  (0x1FAE8, .unassigned), (0x1FAF0, .symbol), (0x1FAF7, .unassigned), (0x1FB00, .symbol),
  (0x1FB93, .unassigned), (0x1FB94, .symbol), (0x1FBCB, .unassigned), (0x1FBF0, .decimalDigit),
  (0x1FBFA, .unassigned), (0x20000, .otherLetter), (0x2A6E0, .unassigned),
  (0x2A700, .otherLetter), (0x2B739, .unassigned), (0x2B740, .otherLetter),
  (0x2B81E, .unassigned), (0x2B820, .otherLetter), (0x2CEA2, .unassigned),
  (0x2CEB0, .otherLetter), (0x2EBE1, .unassigned), (0x2F800, .otherLetter),
  (0x2FA1E, .unassigned), (0x30000, .otherLetter), (0x3134B, .unassigned), (0xE0001, .format),
  (0xE0002, .unassigned), (0xE0020, .format), (0xE0080, .unassigned), (0xE0100, .nonspacingMark),
  (0xE01F0, .unassigned)]

/-- The general category of a character. -/
def category (c : Char) : Category :=
  -- The runs cover every code point, so the default is never the answer.
  lastRow .unassigned categoryRuns c.toNat

/-- Whether a character is a letter of any kind. -/
def isLetter (c : Char) : Bool :=
  match category c with
  | .casedLetter | .modifierLetter | .otherLetter => true
  | _ => false

/-- Whether a character is a digit of a decimal system. -/
def isDecimalDigit (c : Char) : Bool :=
  category c == .decimalDigit

/-- The value of a digit of a decimal system. -/
def decimalValue (c : Char) : Nat :=
  -- The digits of a system, or of several that follow each other, are a run that starts with a zero.
  (c.toNat - lastRow 0 (categoryRuns.map fun run => (run.1, run.1)) c.toNat) % 10

/-- Whether a character is a letter or a number of any kind. -/
def isLetterOrNumber (c : Char) : Bool :=
  match category c with
  | .casedLetter | .modifierLetter | .otherLetter => true
  | .decimalDigit | .letterNumber | .otherNumber => true
  | _ => false

/-- Whether a character has a visible form, the plain space included. -/
def isPrintable (c : Char) : Bool :=
  match category c with
  | .space => c == ' '
  | .separator | .format | .control | .unassigned => false
  | _ => true

/-- Whether a character is white space: the spaces, the separators and the controls that divide text. -/
def isBlank (c : Char) : Bool :=
  match category c with
  | .space | .separator => true
  | .control => (0x09 ≤ c.toNat && c.toNat ≤ 0x0D) || (0x1C ≤ c.toNat && c.toNat ≤ 0x1F) || c.toNat == 0x85
  | _ => false

end AssetCatalog.Unicode

namespace AssetCatalog.Text

/-- The text without the white space at either end. -/
def strip (text : Text) : Text :=
  trim Unicode.isBlank text

/-- The text without white space around it; a blank one gives the fallback. -/
def stripOr (fallback text : Text) : Text :=
  if text.strip.isEmpty then fallback else text.strip

end AssetCatalog.Text
