import AssetCatalog.Unicode.Case

/-! The files handed to the generator, and where each of them lies beneath the asset root. -/

namespace AssetCatalog.Asset

/-- A discovered file. -/
structure Record where
  /-- The path of the file as it was discovered. -/
  source : Text
  /-- Whether every extension becomes a word of the identifier; otherwise the last one is dropped. -/
  flatten : Bool := true
deriving DecidableEq, Repr

/-- The text behind an opening that is compared letter by letter without regard to case. -/
def afterOpening? : Text → Text → Option Text
  | [], text => some text
  | _ :: _, [] => none
  | o :: opening, c :: text => if Unicode.sameLetter o c then afterOpening? opening text else none

/-- The text behind the last place where an opening starts; places may overlap. -/
def afterLast? (opening : Text) : Text → Option Text
  -- A place farther right wins over the one at hand.
  | [] => afterOpening? opening []
  | c :: text =>
    match afterLast? opening text with
    | some rest => some rest
    | none => afterOpening? opening (c :: text)

/-- The part of a path behind the last directory named like the asset root, or nothing without one. -/
def relativePath? (root source : Text) : Option Text :=
  -- Backslashes separate directories too.
  afterLast? ('/' :: root ++ ['/']) (Text.replaceChar '\\' '/' source)

/-- Whether a path lies beneath the asset root. -/
def isBeneath (root source : Text) : Bool :=
  (relativePath? root source).isSome

/-- The records beneath the asset root, in their order. -/
def beneath (root : Text) (records : List Record) : List Record :=
  records.filter fun record => isBeneath root record.source

end AssetCatalog.Asset
