import AssetCatalog.Unicode.Case
import AssetCatalog.Unicode.Category

/-! Log levels: their numbers and names. -/

namespace AssetCatalog.Log

/-- The level of a record; the higher, the graver. -/
abbrev Level := Nat

namespace Level

/-- Details for a search for faults. -/
def debug : Level := 10

/-- The usual course of things. -/
def info : Level := 20

/-- Something that may be wrong. -/
def warning : Level := 30

/-- Something that went wrong. -/
def error : Level := 40

/-- Something that ends the run. -/
def critical : Level := 50

/-- The names that stand for a level. -/
def names : List (Text × Level) :=
  [("CRITICAL", critical), ("FATAL", critical), ("ERROR", error), ("WARN", warning), ("WARNING", warning),
    ("INFO", info), ("DEBUG", debug), ("NOTSET", 0)].map fun ((name, level) : String × Level) => (name.toList, level)

/-- The level with a name, in any case and with blanks around it; the usual level for any other name. -/
def ofName (name : Text) : Level :=
  (names.lookup name.strip.upperCase).getD info

/-- The name of a level in a log line; a level between the known ones is shown by its number. -/
def name (level : Level) : Text :=
  if level = critical then "CRITICAL"
  else if level = error then "ERROR"
  else if level = warning then "WARNING"
  else if level = info then "INFO"
  else if level = debug then "DEBUG"
  else if level = 0 then "NOTSET"
  else "Level " ++ Text.ofNat level

end Level

end AssetCatalog.Log
