import AssetCatalog.Path.Basic
import AssetCatalog.Unicode.Category

/-! Paths that mention the home directory or variables, and the places that such paths stand for. -/

namespace AssetCatalog

/-- Where a program runs: its directory and variables, the users of the machine, and what the machine can hold. -/
structure Environment where
  /-- The working directory. -/
  workingDirectory : Text := ['/']
  /-- The variables with their values. -/
  bindings : List (Text × Text) := []
  /-- The home directories of the users by their names; the user at hand goes by the empty name. -/
  homes : Text → Option Text := fun _ => none
  /-- What the machine says of a regular expression that takes more nested calls than it allows. -/
  patternOverflow? : Text → Option Text := fun _ => none
  /-- What the machine says of a source when the walk over its tree takes more nested calls than it allows. -/
  sourceOverflow? : Text → Option Text := fun _ => none

/-- The home directory of a user; that of the user at hand is a variable first. -/
def Environment.home? (environment : Environment) (user : Text) : Option Text :=
  if user.isEmpty then environment.bindings.lookup "HOME".toList <|> environment.homes user
  else environment.homes user

namespace Path

/-- The user whose home directory a path starts with: the text between a tilde and the first separator. -/
def user? (path : Text) : Option Text :=
  match path with
  | '~' :: rest => some (rest.takeWhile (· != '/'))
  | _ => none

/-- Whether a path starts with the home directory of a user whom no machine can look up, for a null character. -/
def asksForNull (path : Text) : Bool :=
  (user? path).any fun user => user.contains '\x00'

/-- The path with a user at its front exchanged for the home directory, where the machine knows it. -/
def expandHome (environment : Environment) (path : Text) : Text :=
  match (user? path).bind environment.home? with
  | none => path
  | some home =>
    -- Separators at the end of the home directory go, and nothing at all is the root.
    let expanded := Text.trimRight (· == '/') home ++ path.dropWhile (· != '/')
    if expanded.isEmpty then ['/'] else expanded

/-- Whether a character belongs to a variable name without braces. -/
def isNameCharacter (c : Char) : Bool :=
  c.isAlphanum || c == '_'

/-- The variable name behind a dollar sign, the length of what spells it, and the text behind it. -/
def variableName? (text : Text) : Option (Text × Text × Text) :=
  match text with
  | '\x7b' :: rest =>
    (Text.cutFirst? '\x7d' rest).map fun (name, after) => (name, '\x7b' :: name ++ ['\x7d'], after)
  | _ =>
    let name := text.takeWhile isNameCharacter
    if name.isEmpty then none else some (name, name, text.dropWhile isNameCharacter)

/-- Exchanges the known variables in a text for their values, in as many steps as it has characters. -/
def expandFrom (environment : Environment) : Nat → Text → Text
  | 0, text => text
  | _, [] => []
  | fuel + 1, '$' :: rest =>
    match variableName? rest with
    | none => '$' :: expandFrom environment fuel rest
    | some (name, spelling, after) =>
      (environment.bindings.lookup name).getD ('$' :: spelling) ++ expandFrom environment fuel after
  | fuel + 1, c :: rest => c :: expandFrom environment fuel rest

/-- The text with every known variable exchanged for its value, which is not looked into again. -/
def expandVariables (environment : Environment) (text : Text) : Text :=
  expandFrom environment text.length text

/-- The text with the home directory and the variables filled in. -/
def expand (environment : Environment) (path : Text) : Text :=
  expandVariables environment (expandHome environment path)

/-- The directory that a text stands for; a blank one stands for the fallback. -/
def resolveDirectory (environment : Environment) (fallback path : Text) : Text :=
  absolute environment.workingDirectory (expand environment (Text.stripOr fallback path))

/-- The file that a text stands for, seen from a directory; a blank one stands for the default name there. -/
def resolveOutput (environment : Environment) (directory defaultName path : Text) : Text :=
  if path.strip.isEmpty then join directory defaultName
  else absolute environment.workingDirectory (join directory (expand environment path.strip))

end Path

end AssetCatalog
