import AssetCatalog.Text

/-! Paths as texts: joining them, their parts, and the form without detours. -/

namespace AssetCatalog.Path

/-- Whether a path starts at the root. -/
def isAbsolute (path : Text) : Bool :=
  path.head? = some '/'

/-- A path seen from a directory; an absolute one stays as it is. -/
def join (directory path : Text) : Text :=
  if isAbsolute path then path
  else if directory.isEmpty || Text.endsWith directory ['/'] then directory ++ path
  else directory ++ '/' :: path

/-- The path in front of the last separator, without separators at its end unless it holds nothing else. -/
def parent (path : Text) : Text :=
  match Text.cutLast? '/' path with
  | none => []
  | some (before, _) =>
    if before.all (· == '/') then before ++ ['/'] else Text.trimRight (· == '/') before

/-- The part behind the last separator. -/
def fileName (path : Text) : Text :=
  match Text.cutLast? '/' path with
  | none => path
  | some (_, after) => after

/-- The last dot of the file name and what is behind it; dots at the front of the name do not count. -/
def extension (path : Text) : Text :=
  match Text.cutLast? '.' ((fileName path).dropWhile (· == '.')) with
  | none => []
  | some (_, after) => '.' :: after

/-- Takes one segment after those kept so far, the last one first. -/
def step (rooted : Bool) (kept : List Text) (segment : Text) : List Text :=
  -- A step up undoes the segment before it, is lost at the root, and stays at the front of a relative path.
  if segment.isEmpty || segment = ['.'] then kept
  else if segment ≠ ['.', '.'] then segment :: kept
  else match kept with
    | [] => if rooted then [] else [segment]
    | last :: rest => if last = ['.', '.'] then segment :: kept else rest

/-- The separators that a path starts with: two of them are kept, any other number counts as one. -/
def root : Text → Text
  | '/' :: '/' :: '/' :: _ => ['/']
  | '/' :: '/' :: _ => ['/', '/']
  | '/' :: _ => ['/']
  | _ => []

/-- The path without empty segments, steps in place and steps up that can be undone. -/
def normalize (path : Text) : Text :=
  let segments := ((path.splitOn '/').foldl (step (isAbsolute path)) []).reverse
  let normal := root path ++ Text.joinWith ['/'] segments
  if normal.isEmpty then ['.'] else normal

/-- The path from the root on, without detours; it ends in front of the first null character. -/
def absolute (workingDirectory path : Text) : Text :=
  (normalize (join workingDirectory path)).takeWhile (· != '\x00')

end AssetCatalog.Path
