import AssetCatalog.Log.Level

/-! Log records, the loggers that write them, and their lines on the console and in files. -/

namespace AssetCatalog.Log

/-- One message to a log. -/
structure Record where
  /-- How grave the message is. -/
  level : Level
  /-- The name of the logger that wrote it. -/
  logger : Text
  /-- The message. -/
  message : Text
deriving DecidableEq, Repr

namespace Record

/-- The line of a record on the console. -/
def line (record : Record) : Text :=
  record.level.name ++ " | " ++ record.message

/-- The line of a record in a file, behind the time. -/
def timedLine (time : Text) (record : Record) : Text :=
  time ++ " | " ++ record.level.name ++ " | " ++ record.logger ++ " | " ++ record.message

/-- Whether a record is kept where only a level and graver ones are; one without a level never is. -/
def reaches (least : Level) (record : Record) : Bool :=
  0 < record.level && least ≤ record.level

end Record

/-- The logger of the search for assets. -/
def discoveryLogger : Text := "assetgen.core.services.scanner"

/-- The logger of a run. -/
def runLogger : Text := "assetgen.core.pipeline.engine"

/-- The logger of the validation of settings. -/
def validationLogger : Text := "assetgen.core.pipeline.stages.validator"

/-- The logger of the check of sources. -/
def checkLogger : Text := "assetgen.core.analysis.hardcoded_paths"

/-- The logger of the settings file. -/
def settingsLogger : Text := "assetgen.domain.config"

/-- The logger of the command line. -/
def commandLogger : Text := "assetgen.interface.cli.app"

/-- The logger of what ends the program. -/
def crashLogger : Text := "assetgen.supervisor"

end AssetCatalog.Log
