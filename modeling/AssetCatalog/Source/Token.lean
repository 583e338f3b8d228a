import AssetCatalog.Text

/-! The tokens of a source, with the places at which they start. -/

namespace AssetCatalog.Source

/-- A place in a source. -/
structure Position where
  /-- The line, counted from one. -/
  line : Nat := 1
  /-- The number of bytes in front of the place on its line. -/
  column : Nat := 0
deriving DecidableEq, Repr

namespace Position

/-- The place behind a character. -/
def step (position : Position) (c : Char) : Position :=
  if c = '\n' then ⟨position.line + 1, 0⟩ else ⟨position.line, position.column + c.utf8Size⟩

/-- The place behind a text. -/
def past (position : Position) (text : Text) : Position :=
  text.foldl step position

end Position

/-- A string as it is spelled, without its letters and quotes. -/
structure Quotation where
  /-- Whether backslashes stand for themselves. -/
  raw : Bool := false
  /-- Whether the string is one of bytes. -/
  bytes : Bool := false
  /-- Whether braces enclose expressions. -/
  interpolated : Bool := false
  /-- What is between the quotes. -/
  body : Text
deriving DecidableEq, Repr

/-- What a token is. -/
inductive Lexeme where
  /-- A name as it is spelled. -/
  | name (spelling : Text)
  /-- A reserved word. -/
  | keyword (word : Text)
  /-- A number as it is spelled. -/
  | number (spelling : Text)
  /-- A string. -/
  | string (quotation : Quotation)
  /-- An operator or a delimiter. -/
  | mark (spelling : Text)
  /-- The end of a logical line. -/
  | newline
  /-- The start of a block. -/
  | indent
  /-- The end of a block. -/
  | dedent
  /-- The end of the source. -/
  | finish
deriving DecidableEq, Repr

/-- A token at its place. -/
structure Token where
  /-- What the token is. -/
  lexeme : Lexeme
  /-- Where it starts. -/
  position : Position
deriving DecidableEq, Repr

end AssetCatalog.Source
