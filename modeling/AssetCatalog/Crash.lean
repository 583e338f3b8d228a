import AssetCatalog.Regex.Parser
import AssetCatalog.Text.Utf8

/-! What ends a run without a report. -/

namespace AssetCatalog

/-- Why a run ends without a report. -/
inductive Crash where
  /-- A path was expected, but there is a value of another type. -/
  | noPath (typeName : Text)
  /-- An exclusion pattern is beyond a limit of its format. -/
  | pattern (fault : Regex.ParseError)
  /-- The file to be replaced holds no text. -/
  | undecodable (fault : Utf8.Fault)
  /-- A user is asked for whose name holds a null character. -/
  | nullCharacter
  /-- The walk over the tree of a source takes more nested calls than the machine allows. -/
  | overflow (message : Text)
deriving DecidableEq, Repr

namespace Crash

/-- The name of the kind of a crash. -/
def kind : Crash → Text
  | noPath _ => "TypeError"
  | pattern .repetitionTooLarge => "OverflowError"
  | pattern (.nestedTooDeeply _) | overflow _ => "RecursionError"
  | pattern _ | nullCharacter => "ValueError"
  | undecodable _ => "UnicodeDecodeError"

/-- The wording of a crash. -/
def message : Crash → Text
  | noPath typeName => "expected str, bytes or os.PathLike object, not " ++ typeName
  | pattern fault => fault.message
  | undecodable fault => fault.message
  | nullCharacter => "embedded null byte"
  | overflow message => message

end Crash

end AssetCatalog
