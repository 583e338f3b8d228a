import AssetCatalog.CommandLine.Reach
import Std.Time

/-! The program: it enters the files of the machine into a store, runs, and carries out the changes. -/

namespace AssetCatalog.Machine

open Store (Entry Change)

/-- Does a change that cannot fail on a store made from a machine's files. -/
def changed (store : Store) (change : Change Unit) : Store :=
  (change.run store).2

/-- The kind of what is at a path, links not followed. -/
def kindOf? (directory name : String) : IO (Option IO.FS.FileType) := do
  try
    let metadata ← (IO.FS.DirEntry.mk directory name).path.symlinkMetadata
    return some metadata.type
  catch _ => return none

/-- The path that a link leads to in the end; itself, where it leads nowhere. -/
def goalOf (path : String) : IO String := do
  try return (← IO.FS.realPath path).toString
  catch _ => return path

/-- The bytes of a file, none where it cannot be read. -/
def contentOf (path : String) : IO Bytes := do
  try return (← IO.FS.readBinFile path).toList
  catch _ => return []

/-- Enters what is at a path into a store, with all that is on the way to it. -/
partial def enter (store : Store) (path : Text) : IO Store := do
  let steps := (path.splitOn '/').filter fun step => !step.isEmpty
  let mut store := store
  let mut front : Text := []
  for step in steps do
    let here := front ++ '/' :: step
    let place := String.ofList here
    match ← kindOf? (if front.isEmpty then "/" else String.ofList front) (String.ofList step) with
    | some .dir => store := changed store (Store.makeDirectories here)
    | some .symlink =>
      if !(store.place here false).toOption.any (fun spot => (store.root.at? spot).isSome) then
        let goal := (← goalOf place).toList
        store := changed store (Store.attempt here fun store => store.makeLink here goal)
        if goal ≠ here then store ← enter store goal
    | some _ =>
      let content ← contentOf place
      store := changed store (Store.attempt here fun store => store.write here content)
    | none => pure ()
    front := here
  return store

/-- Enters all that is beneath a directory; only sources are entered with what they hold. -/
partial def enterBeneath (store : Store) (directory : Text) : IO Store := do
  let mut store ← enter store directory
  for item in ← (← IO.FS.realPath (String.ofList directory)).readDir do
    let here := Path.join directory item.fileName.toList
    match ← kindOf? (String.ofList directory) item.fileName with
    | some .dir => store ← enterBeneath store here
    | some .file =>
      if Path.extension here = ".py".toList then store ← enter store here
      else if !store.contains here then
        store := changed store (Store.attempt here fun store => store.write here [])
    | _ => store ← enter store here
  return store

/-- Carries out what makes one directory of a store into another one. -/
partial def carryOut (path : String) (old new : Entry) : IO Unit := do
  for entry in old.entries do
    if (new.child? entry.name).isNone then IO.FS.removeFile (path ++ "/" ++ String.ofList entry.name)
  for entry in new.entries do
    let here := path ++ "/" ++ String.ofList entry.name
    match entry, old.child? entry.name with
    | .directory _ _, some before => carryOut here before entry
    | .directory _ _, none =>
      IO.FS.createDir here
      carryOut here (.directory [] []) entry
    | .file _ content, some (.file _ before) =>
      if content ≠ before then IO.FS.writeBinFile here ⟨content.toArray⟩
    | .file _ content, _ => IO.FS.writeBinFile here ⟨content.toArray⟩
    | .link _ _, _ => pure ()

/-- The variables of the process. -/
def bindings : IO (List (Text × Text)) := do
  let text ← try String.fromUTF8! <$> IO.FS.readBinFile "/proc/self/environ" catch _ => pure ""
  return (text.toList.splitOn '\x00').filterMap (Text.cutFirst? '=')

/-- The lines of a file, each parted at its colons; none where the file cannot be read. -/
def table (path : String) : IO (List (List Text)) := do
  let text := (Utf8.decode (← contentOf path)).toOption.getD []
  return (text.splitOn '\n').map fun line => line.splitOn ':'

/-- The home directories of the users, with that of the user at hand under the empty name. -/
def homes : IO (Text → Option Text) := do
  let users ← table "/etc/passwd"
  let owner := (← table "/proc/self/status").findSome? fun
    | [name, numbers] => if name = "Uid".toList then (numbers.splitOn '\t')[1]? else none
    | _ => none
  return fun user => users.findSome? fun
    | [name, _, number, _, _, home, _] =>
      if if user.isEmpty then some number = owner else name = user then some home else none
    | _ => none

/-- The calls that a walk over a tree may have open at once. -/
def room : Nat := 960

/-- The time of day, as log files show it. -/
def time : IO Text := do
  return ((← Std.Time.PlainDateTime.now).format "uuuu-MM-dd HH:mm:ss").toList

/-- The store with all that a run looks at. -/
def load (environment : Environment) (arguments : List Text) : IO Store := do
  let first ← (CommandLine.reach environment {} arguments).files.foldlM enter {}
  let reach := CommandLine.reach environment first arguments
  let store ← reach.directories.foldlM (fun store directory => do
    let goal ← goalOf (String.ofList directory)
    match ← kindOf? goal "." with
    | some .dir => enterBeneath (← enter store directory) goal.toList
    | _ => enter store directory) first
  reach.files.foldlM enter store

/-- Runs the program on the machine. -/
def run (arguments : List Text) : IO UInt32 := do
  let directory := (← IO.currentDir).toString.toList
  let environment : Environment := {
    workingDirectory := directory, bindings := ← bindings, homes := ← homes
    sourceOverflow? := HardcodedPath.overflowAt room }
  let store ← load environment arguments
  let outcome := CommandLine.run environment (← time) store arguments
  carryOut "" store.root outcome.store.root
  IO.eprint (String.ofList (outcome.console ++ outcome.err))
  IO.print (String.ofList outcome.out)
  return outcome.code.toUInt32

end AssetCatalog.Machine

/-- Runs the program with its arguments. -/
def main (arguments : List String) : IO UInt32 :=
  AssetCatalog.Machine.run (arguments.map String.toList)
