import AssetCatalog.Text

/-! The words that the generated language reserves for itself. -/

namespace AssetCatalog

/-- The reserved words, which are identifiers in form and cannot be used as names. -/
def keywords : List Text :=
  ["False", "None", "True", "and", "as", "assert", "async", "await", "break", "class", "continue",
    "def", "del", "elif", "else", "except", "finally", "for", "from", "global", "if", "import", "in",
    "is", "lambda", "nonlocal", "not", "or", "pass", "raise", "return", "try", "while", "with",
    "yield"].map String.toList

/-- Whether a text is a reserved word. -/
def isKeyword (text : Text) : Bool :=
  keywords.contains text

end AssetCatalog
