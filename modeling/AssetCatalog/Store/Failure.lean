import AssetCatalog.Text.Utf8

/-! Why something cannot be done with a path, with the wording of each cause. -/

namespace AssetCatalog.Store

/-- Why a path cannot be used. -/
inductive Cause where
  /-- There is nothing, or no directory to put it in. -/
  | missing
  /-- There is something already. -/
  | taken
  /-- Something on the way is no directory. -/
  | notDirectory
  /-- There is a directory. -/
  | isDirectory
  /-- A name on the way has too many bytes. -/
  | nameTooLong
  /-- Too many links are on the way. -/
  | tooManyLinks
deriving DecidableEq, Repr

namespace Cause

/-- The number of a cause. -/
def number : Cause → Nat
  | missing => 2
  | taken => 17
  | notDirectory => 20
  | isDirectory => 21
  | nameTooLong => 36
  | tooManyLinks => 40

/-- The wording of a cause. -/
def text : Cause → Text
  | missing => "No such file or directory"
  | taken => "File exists"
  | notDirectory => "Not a directory"
  | isDirectory => "Is a directory"
  | nameTooLong => "File name too long"
  | tooManyLinks => "Too many levels of symbolic links"

end Cause

/-- Why something cannot be done with a file. -/
inductive Failure where
  /-- The path, as it was given, cannot be used. -/
  | unusable (cause : Cause) (path : Text)
  /-- The content is no text. -/
  | undecodable (fault : Utf8.Fault)
deriving DecidableEq, Repr

/-- The wording of a failure. -/
def Failure.message : Failure → Text
  | unusable cause path =>
    "[Errno " ++ Text.ofNat cause.number ++ "] " ++ cause.text ++ ": " ++ Text.shown path
  | undecodable fault => fault.message

end AssetCatalog.Store
