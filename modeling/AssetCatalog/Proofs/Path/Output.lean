import AssetCatalog.Path.Expansion
import AssetCatalog.Proofs.Text.Trimming

/-! The places of output paths: where one that was joined to its directory early stands for the same file. -/

namespace AssetCatalog

namespace Text

variable {text : Text}

/-- On the left, nothing is dropped from a text that starts with a sign. -/
theorem dropWhile_isBlank (first : ∀ c ∈ text.head?, Unicode.isBlank c = false) :
    text.dropWhile Unicode.isBlank = text := by
  -- Dropping stops at the first sign.
  cases text with
  | nil => rfl
  | cons c rest => simp [first c rfl]

/-- A text that starts with a sign keeps it on the right. -/
theorem isEmpty_dropWhile_reverse (holds : text ≠ []) (first : ∀ c ∈ text.head?, Unicode.isBlank c = false) :
    (text.reverse.dropWhile Unicode.isBlank).isEmpty = false := by
  -- Turned round, the sign stands at the end and is not dropped.
  obtain ⟨c, rest, rfl⟩ := List.exists_cons_of_ne_nil holds
  simp [first c rfl]

/-- A text that starts with a sign is not blank. -/
theorem isEmpty_strip_of_head? (holds : text ≠ []) (first : ∀ c ∈ text.head?, Unicode.isBlank c = false) :
    text.strip.isEmpty = false := by
  rw [strip, trim, trimRight, dropWhile_isBlank first, List.isEmpty_reverse, isEmpty_dropWhile_reverse holds first]

/-- Stripping a text behind a front strips the text, if both start with a sign. -/
theorem strip_append {front : Text} (filled : front ≠ []) (starts : ∀ c ∈ front.head?, Unicode.isBlank c = false)
    (holds : text ≠ []) (first : ∀ c ∈ text.head?, Unicode.isBlank c = false) :
    (front ++ text).strip = front ++ text.strip := by
  -- Nothing is dropped on the left, and the right end is that of the text.
  have both : ∀ c ∈ (front ++ text).head?, Unicode.isBlank c = false := by
    rwa [List.head?_append_of_ne_nil _ filled]
  rw [strip, strip, trim, trim, dropWhile_isBlank both, dropWhile_isBlank first, trimRight, trimRight,
    List.reverse_append, List.dropWhile_append, isEmpty_dropWhile_reverse holds first]
  simp

end Text

namespace Path

variable {environment : Environment} {directory path name : Text}

/-- An absolute path begins with a separator. -/
theorem isAbsolute_iff : isAbsolute path = true ↔ ∃ rest, path = '/' :: rest := by
  rw [isAbsolute, decide_eq_true_iff, List.head?_eq_some_iff]

/-- A path behind an absolute one is absolute. -/
theorem isAbsolute_append (rooted : isAbsolute directory = true) : isAbsolute (directory ++ path) = true := by
  -- The first sign is still that of the directory.
  obtain ⟨rest, rfl⟩ := isAbsolute_iff.mp rooted
  rfl

/-- What a directory puts in front of a relative path. -/
def front (directory : Text) : Text :=
  if directory.isEmpty || Text.endsWith directory ['/'] then directory else directory ++ ['/']

/-- What a directory puts in front of a path begins as the directory does, where this is one. -/
theorem head?_front (rooted : isAbsolute directory = true) : (front directory).head? = some '/' := by
  -- A separator that may be added comes behind the first sign.
  obtain ⟨rest, rfl⟩ := isAbsolute_iff.mp rooted
  rw [front]
  split <;> rfl

/-- A directory puts a separator behind its last sign, unless that is one. -/
theorem front_concat (text : Text) (c : Char) :
    front (text ++ [c]) = if c = '/' then text ++ [c] else text ++ [c] ++ ['/'] := by
  -- That the directory ends in a separator is a matter of its last sign.
  have ends : Text.endsWith (text ++ [c]) ['/'] = decide (c = '/') := by
    rw [Text.endsWith, Bool.eq_iff_iff, List.isSuffixOf_iff_suffix, decide_eq_true_iff]
    constructor
    · rintro ⟨front, same⟩
      exact (List.cons.inj (List.append_inj' same rfl).2).1.symm
    · rintro rfl
      exact List.suffix_append text ['/']
  rw [front, ends]
  simp

/-- What a directory puts in front of a path ends in a separator. -/
theorem exists_front_eq (filled : directory ≠ []) : ∃ before, front directory = before ++ ['/'] := by
  -- The last sign of the directory is a separator, or one is put behind it.
  obtain ⟨text, c, rfl⟩ := (directory.eq_nil_or_concat).resolve_left filled
  rw [List.concat_eq_append, front_concat]
  split
  next separator => exact ⟨text, by rw [separator]⟩
  next => exact ⟨text ++ [c], rfl⟩

/-- What is put in front of a path behind a directory is that of the directory, and behind it that of the path. -/
theorem front_front_append (filled : directory ≠ []) (path : Text) :
    front (front directory ++ path) = front directory ++ front path := by
  obtain ⟨before, ends⟩ := exists_front_eq filled
  obtain rfl | ⟨text, c, rfl⟩ := path.eq_nil_or_concat
  · rw [List.append_nil, ends, front_concat, if_pos rfl]
    exact (List.append_nil _).symm
  · -- The last sign is that of the path.
    rw [List.concat_eq_append, ← List.append_assoc, front_concat, front_concat]
    split <;> simp

/-- A relative path stands behind what its directory puts in front. -/
theorem join_of_relative (relative : isAbsolute path = false) : join directory path = front directory ++ path := by
  -- Joining puts a separator between them exactly where the front ends in one that was added.
  rw [join, relative, front]
  cases directory.isEmpty || Text.endsWith directory ['/'] <;> simp

/-- An absolute path is not seen from a directory. -/
theorem join_of_isAbsolute (rooted : isAbsolute path = true) : join directory path = path := by
  rw [join, if_pos rooted]

/-- A path that is seen from an absolute directory is absolute. -/
theorem isAbsolute_join (rooted : isAbsolute directory = true) : isAbsolute (join directory path) = true := by
  -- An absolute path stays itself, and any other comes behind the directory.
  cases found : isAbsolute path with
  | true => rwa [join_of_isAbsolute found]
  | false =>
    obtain ⟨rest, started⟩ := List.head?_eq_some_iff.mp (head?_front rooted)
    rw [join_of_relative found, started]
    rfl

/-- The normal form of an absolute path is absolute. -/
theorem isAbsolute_normalize (rooted : isAbsolute path = true) : isAbsolute (normalize path) = true := by
  -- Of the separators that the path starts with, one at least is kept.
  obtain ⟨rest, rfl⟩ := isAbsolute_iff.mp rooted
  have kept : ∃ more, root ('/' :: rest) = '/' :: more := by
    unfold root
    split
    · exact ⟨[], rfl⟩
    · exact ⟨['/'], rfl⟩
    · exact ⟨[], rfl⟩
    next other => exact absurd rfl (other rest)
  obtain ⟨more, same⟩ := kept
  simp [normalize, same, isAbsolute]

/-- A path that is completed from an absolute directory is absolute. -/
theorem isAbsolute_absolute (rooted : isAbsolute directory = true) : isAbsolute (absolute directory path) = true := by
  -- The joined path is absolute, and its normal form remains so.
  have whole : isAbsolute (join directory path) = true := isAbsolute_join rooted
  obtain ⟨rest, same⟩ := isAbsolute_iff.mp (isAbsolute_normalize whole)
  rw [absolute, same]
  rfl

/-- Variables are filled in behind a text without any, whatever the number of steps. -/
theorem expandFrom_append {text : Text} (free : '$' ∉ directory) (fuel : Nat) :
    expandFrom environment (directory.length + fuel) (directory ++ text) =
      directory ++ expandFrom environment fuel text := by
  -- Each sign that is no dollar sign is kept, and takes one step.
  induction directory with
  | nil => simp
  | cons c rest ih =>
    simp only [List.mem_cons, not_or] at free
    rw [List.cons_append, List.length_cons, Nat.add_right_comm, expandFrom, ih free.2, List.cons_append]
    exact fun dollar => free.1 dollar.symm

/-- Variables are filled in behind a text without any. -/
theorem expandVariables_append {text : Text} (free : '$' ∉ directory) :
    expandVariables environment (directory ++ text) = directory ++ expandVariables environment text := by
  rw [expandVariables, expandVariables, List.length_append, expandFrom_append free]

/-- A path behind a front from the root has no home directory in front. -/
theorem expand_append (rooted : isAbsolute directory = true) (free : '$' ∉ directory) :
    expand environment (directory ++ path) = directory ++ expandVariables environment path := by
  -- A path from the root has no user in front, and variables are filled in from the path on.
  obtain ⟨rest, rfl⟩ := isAbsolute_iff.mp rooted
  rw [expand, ← expandVariables_append free]
  rfl

/-- The sign of the root is not blank. -/
theorem isBlank_of_root {c : Char} (first : c ∈ some '/') : Unicode.isBlank c = false := by
  obtain rfl := Option.some.inj first
  decide

/-- An absolute path is not blank. -/
theorem isEmpty_strip_of_isAbsolute (rooted : isAbsolute path = true) : path.strip.isEmpty = false := by
  obtain ⟨rest, rfl⟩ := isAbsolute_iff.mp rooted
  exact Text.isEmpty_strip_of_head? (by simp) fun _ first => isBlank_of_root first

/-- Stripping an absolute path leaves it absolute. -/
theorem isAbsolute_stripOr {fallback : Text} (rooted : isAbsolute path = true) :
    isAbsolute (Text.stripOr fallback path) = true := by
  have filled := isEmpty_strip_of_isAbsolute rooted
  obtain ⟨rest, rfl⟩ := isAbsolute_iff.mp rooted
  -- Nothing goes on the left, and what stays of a text that goes on the right begins as the text does.
  have left : Text.strip ('/' :: rest) = ('/' :: rest : Text).rdropWhile Unicode.isBlank :=
    congrArg (Text.trimRight Unicode.isBlank) (Text.dropWhile_isBlank fun _ first => isBlank_of_root first)
  obtain ⟨behind, whole⟩ := List.rdropWhile_prefix (p := Unicode.isBlank) (l := ('/' :: rest : Text))
  rw [← left] at whole
  rw [Text.stripOr, if_neg (Bool.eq_false_iff.mp filled), isAbsolute, decide_eq_true_iff,
    ← List.head?_append_of_ne_nil _ (by simpa using filled), whole]
  rfl

/-- White space around the text does not matter for the directory that it stands for. -/
theorem resolveDirectory_stripOr {fallback : Text} (filled : path.strip.isEmpty = false) :
    resolveDirectory environment fallback (Text.stripOr fallback path) =
      resolveDirectory environment fallback path := by
  simp [resolveDirectory, Text.stripOr, filled]

/-- An absolute path starts with no user. -/
theorem asksForNull_of_isAbsolute (rooted : isAbsolute path = true) : asksForNull path = false := by
  -- A user is named behind a tilde, and the path begins with a separator.
  obtain ⟨rest, rfl⟩ := isAbsolute_iff.mp rooted
  rfl

/-- A relative path that home directories and variables leave relative, and that starts with a sign. -/
def IsPlain (environment : Environment) (path : Text) : Prop :=
  path ≠ [] ∧ path.head?.all (fun c => !Unicode.isBlank c) = true ∧ isAbsolute path = false ∧
    asksForNull path.strip = false ∧ expandHome environment path.strip = path.strip ∧
      isAbsolute (expandVariables environment path.strip) = false

instance : Decidable (IsPlain environment path) :=
  inferInstanceAs (Decidable (_ ∧ _ ∧ _ ∧ _ ∧ _ ∧ _))

/-- A sign that is not blank starts a plain path. -/
theorem IsPlain.isBlank_head (plain : IsPlain environment path) : ∀ c ∈ path.head?, Unicode.isBlank c = false := by
  simpa [Option.all_eq_true] using plain.2.1

/-- What a directory puts in front of a plain path is kept when white space around the whole goes. -/
theorem strip_join (rooted : isAbsolute directory = true) (plain : IsPlain environment path) :
    (join directory path).strip = front directory ++ path.strip := by
  -- The front begins with a separator, so that nothing in it is trimmed.
  have begins := head?_front rooted
  have starts : ∀ c ∈ (front directory).head?, Unicode.isBlank c = false := by
    rw [begins]
    intro c first
    exact isBlank_of_root first
  have filled : front directory ≠ [] := fun none => by rw [none] at begins; cases begins
  rw [join_of_relative plain.2.2.1, Text.strip_append filled starts plain.1 plain.isBlank_head]

/-- What a directory puts in front of a path is absolute as the directory is. -/
theorem isAbsolute_front (rooted : isAbsolute directory = true) : isAbsolute (front directory) = true := by
  -- The front begins as the directory does.
  rw [isAbsolute, head?_front rooted]
  rfl

/-- A plain path starts with no user who cannot be looked up, whether or not it is joined to its directory. -/
theorem asksForNull_join (rooted : isAbsolute directory = true) (plain : IsPlain environment path) :
    asksForNull (join directory path).strip = asksForNull path.strip := by
  -- The joined path is absolute and asks for nobody; a plain path by itself asks for nobody either.
  rw [strip_join rooted plain, asksForNull_of_isAbsolute (isAbsolute_append (isAbsolute_front rooted))]
  exact plain.2.2.2.1.symm

/-- A plain path stands for one file, whether or not it is joined to its directory before anything is filled in. -/
theorem resolveOutput_join (rooted : isAbsolute directory = true) (free : '$' ∉ directory)
    (plain : IsPlain environment path) :
    resolveOutput environment directory name (join directory path) =
      resolveOutput environment directory name path := by
  -- What the directory puts in front is absolute and free of variables, so that only the path is filled in.
  have whole : isAbsolute (front directory) = true := isAbsolute_front rooted
  have filled : front directory ≠ [] := fun none => by rw [none] at whole; cases whole
  have unmarked : '$' ∉ front directory := by
    rw [front]
    split
    · exact free
    · simpa using free
  have stripped := strip_join rooted plain
  obtain ⟨holds, -, -, -, atHome, stays⟩ := id plain
  -- Seen from the directory, both are its front with the filled in path behind it.
  have joined : resolveOutput environment directory name (join directory path) =
      absolute environment.workingDirectory (front directory ++ expandVariables environment path.strip) := by
    rw [resolveOutput, stripped, expand_append whole unmarked, join_of_isAbsolute (isAbsolute_append whole)]
    simp [filled]
  have alone : resolveOutput environment directory name path =
      absolute environment.workingDirectory (front directory ++ expandVariables environment path.strip) := by
    rw [resolveOutput, Text.isEmpty_strip_of_head? holds plain.isBlank_head, expand, atHome, join_of_relative stays]
    rfl
  rw [joined, alone]

end Path

end AssetCatalog
