import AssetCatalog.Log.Record
import AssetCatalog.Store.Document

/-! Where log lines go: the console, and files that are moved aside before they grow too large. -/

namespace AssetCatalog.Log

open Store (Change)

/-- A file that log lines are added to. -/
structure LogFile where
  /-- The path from the root. -/
  path : Text
  /-- The size that the file stays below; nothing limits it where the number is not positive. -/
  sizeLimit : Int
  /-- The number of older files that are kept beside it. -/
  backupCount : Int
deriving DecidableEq, Repr

namespace LogFile

/-- The path of an older file, the higher the number the older. -/
def backupPath (file : LogFile) (number : Nat) : Text :=
  file.path ++ "." ++ Text.ofNat number

/-- Whether a line, which counts in characters, would bring the file to its limit. -/
def isFullFor (file : LogFile) (line : Text) (store : Store) : Bool :=
  match store.read file.path with
  | .ok content => 0 < file.sizeLimit && file.sizeLimit ≤ content.length + line.length
  | .error .isDirectory => false
  | .error _ => 0 < file.sizeLimit && file.sizeLimit ≤ line.length

/-- Removes the file at a path, where there is one. -/
def discard (path : Text) : Change Unit := do
  if (← get).isDirectory path then throw (.unusable .isDirectory path)
  else if (← get).contains path then Store.attempt path fun store => store.remove path

/-- Moves a file to a path, where it takes the place of another one. -/
def moveTo (path target : Text) : Change Unit := do
  if (← get).contains path then
    discard target
    Store.attempt path fun store => store.move path target

/-- Moves the older files on by one number, the oldest first, so that the one behind the last is lost. -/
def moveBackups (file : LogFile) : Change Unit :=
  ((List.range (file.backupCount.toNat - 1)).reverse.map (· + 1)).forM fun number =>
    moveTo (file.backupPath number) (file.backupPath (number + 1))

/-- Makes the file the first of the older ones and starts a new one; without older ones it goes on. -/
def rollOver (file : LogFile) : Change Unit := do
  if 0 < file.backupCount then
    file.moveBackups
    discard (file.backupPath 1)
    moveTo file.path (file.backupPath 1)
  Store.attempt file.path fun store => store.append file.path []

/-- Adds a line, to a new file where the one at hand is full. -/
def add (file : LogFile) (line : Text) : Change Unit := do
  if file.isFullFor line (← get) then file.rollOver
  Store.attempt file.path fun store => store.append file.path (Utf8.encode line)

/-- Makes sure that there is a file to add lines to. -/
def openUp (file : LogFile) : Change Unit := do
  Store.makeDirectories (Path.parent file.path)
  Store.attempt file.path fun store => store.append file.path []

end LogFile

/-- What log lines are written to. -/
inductive Target where
  /-- The console. -/
  | console
  /-- A file. -/
  | file (file : LogFile)
deriving DecidableEq, Repr

/-- A target with the least level of the records that it takes. -/
structure Sink where
  /-- The least level. -/
  level : Level
  /-- The target. -/
  target : Target
deriving DecidableEq, Repr

/-- What a record writes to a target: what shows on the console, and the store afterwards. -/
def Target.write (time : Text) (record : Record) (store : Store) : Target → Text × Store
  | .console => (record.line ++ ['\n'], store)
  | .file logFile =>
    -- A line that cannot be written is lost.
    ([], ((logFile.add (record.timedLine time ++ ['\n'])).run store).2)

end AssetCatalog.Log
