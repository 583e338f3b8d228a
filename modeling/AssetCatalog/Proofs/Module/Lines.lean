import AssetCatalog.Proofs.Module.Layout
import AssetCatalog.Proofs.Text.Joining
import Mathlib.Data.List.TakeWhile

/-! The text of a module is cut into the lines that were laid out, and these are read back. -/

namespace AssetCatalog.Layout

open Asset (Node Place)
open Reader (Reads Visible)

/-- Blank lines are taken away at the end of the last lines, if these are not all blank. -/
theorem withoutTrailingBlanks_append (first : List Text) {second : List Text}
    (filled : ∃ line ∈ second, line ≠ []) :
    withoutTrailingBlanks (first ++ second) = first ++ withoutTrailingBlanks second := by
  -- From the end, the last line that is not blank is met within the second part.
  have stops : second.reverse.dropWhile List.isEmpty ≠ [] := by
    simpa [List.dropWhile_eq_nil_iff] using filled
  simp [withoutTrailingBlanks, List.dropWhile_append, stops]

/-- Lines are those without the blank ones at their end, and then some blank ones. -/
theorem exists_append_replicate (lines : List Text) :
    ∃ count, lines = withoutTrailingBlanks lines ++ List.replicate count [] := by
  -- The lines that are taken away are the blank ones at the beginning of the reversed list.
  refine ⟨(lines.reverse.takeWhile List.isEmpty).length, ?_⟩
  have blanks : lines.reverse.takeWhile List.isEmpty =
      List.replicate (lines.reverse.takeWhile List.isEmpty).length [] := by
    refine List.eq_replicate_iff.mpr ⟨rfl, fun line member => ?_⟩
    simpa using List.mem_takeWhile_imp member
  rw [withoutTrailingBlanks, ← List.reverse_replicate, ← blanks, ← List.reverse_append,
    List.takeWhile_append_dropWhile, List.reverse_reverse]

/-- Lines that each end in a line feed are got back by cutting there, with nothing behind the last one. -/
theorem splitOn_joinWith_append {lines : List Text} (nonempty : lines ≠ [])
    (unbroken : ∀ line ∈ lines, '\n' ∉ line) :
    (Text.joinWith ['\n'] lines ++ ['\n']).splitOn '\n' = lines ++ [[]] := by
  -- A line feed at the end is one that comes before an empty last line.
  have ended : Text.joinWith ['\n'] lines ++ ['\n'] = Text.joinWith ['\n'] (lines ++ [[]]) := by
    obtain ⟨first, rest, rfl⟩ := List.exists_cons_of_ne_nil nonempty
    rw [List.cons_append, Text.joinWith_cons, Text.joinWith_cons]
    simp
  rw [ended]
  refine Text.splitOn_joinWith (by simp) fun line member => ?_
  rcases List.mem_append.mp member with inside | last
  · exact unbroken line inside
  · simp [List.mem_singleton.mp last]

/-- The fixed lines before the first class are free of controls. -/
theorem visible_preamble : ∀ line ∈ preamble, Visible line := by
  -- The lines are looked at one by one.
  simp only [preamble, List.map_cons, List.map_nil, List.forall_mem_cons]
  refine ⟨?_, ?_, ?_, ?_, ?_, ?_, ?_, ?_, ?_, ?_, ?_, ?_, ?_, ?_, ?_, ?_, ?_, List.forall_mem_nil _⟩
  all_goals exact Reader.visible_constant (by decide)

/-- A line without controls holds no line feed. -/
theorem lineFeed_not_mem {line : Text} (visible : Visible line) : '\n' ∉ line := fun member =>
  absurd (visible _ member) (by decide)

/-- The lines of a class begin with one that is not blank. -/
theorem exists_filled_groupLines (base : Text) (depth : Nat) (node : Node) :
    ∃ line ∈ groupLines base depth node, line ≠ [] := by
  -- The line that opens the class holds at least the word for it.
  rw [groupLines_eq]
  exact ⟨_, List.mem_cons_self, by simp⟩

section Text

variable {base : Text} {tree : Node} {bindings : List Reader.Binding}

/-- The lines of a module are free of controls if those of its classes are. -/
theorem visible_moduleLines (visible : ∀ line ∈ groupLines base 0 tree, Visible line) :
    ∀ line ∈ withoutTrailingBlanks (preamble ++ groupLines base 0 tree), Visible line := by
  -- Each line left is one of the preamble or of the classes.
  intro line member
  have laid : line ∈ preamble ++ groupLines base 0 tree :=
    List.mem_reverse.mp ((List.dropWhile_sublist _).subset (List.mem_reverse.mp member))
  exact (List.mem_append.mp laid).elim (visible_preamble line) (visible line)

/-- Where no line holds a control, the text of a module is cut at line feeds into its lines. -/
theorem splitOn_moduleText (visible : ∀ line ∈ groupLines base 0 tree, Visible line) :
    (moduleText base tree).splitOn '\n' =
      withoutTrailingBlanks (preamble ++ groupLines base 0 tree) ++ [[]] := by
  -- Joining and splitting are inverse, as no line holds a line feed and there is a line at least.
  refine splitOn_joinWith_append ?_ fun line member =>
    lineFeed_not_mem (visible_moduleLines visible line member)
  rw [withoutTrailingBlanks_append _ (exists_filled_groupLines base 0 tree)]
  exact List.append_ne_nil_of_left_ne_nil (List.cons_ne_nil _ _) _

/-- Where no line holds a control, the text of a module holds none but the line feeds behind its lines. -/
theorem lineFeed_of_mem_moduleText (visible : ∀ line ∈ groupLines base 0 tree, Visible line)
    {c : Char} (member : c ∈ moduleText base tree) (control : c.toNat < 0x20) : c = '\n' := by
  -- A character of the text is in a line, between two lines, or at the end.
  rcases List.mem_append.mp member with joined | last
  · rcases Text.mem_joinWith joined with between | ⟨line, known, inside⟩
    · exact List.mem_singleton.mp between
    · have shown := visible_moduleLines visible line known c inside
      omega
  · exact List.mem_singleton.mp last

/-- Blank lines are passed over, however many there are. -/
theorem readLines?_blanks (scopes : List Text) (count : Nat) :
    Reader.readLines? scopes (List.replicate count []) = some (scopes, []) := by
  -- A line without a statement keeps the scopes and binds nothing.
  have blank : Reader.readLine? scopes [] = some (scopes, []) := by
    have nothing : Reader.statement? [] = some .nothing := Reader.statement?_idle (by simp) rfl
    have read : Reader.readLine? scopes (indent 0 ++ []) = _ := Reader.readLine?_indent scopes 0 (by simp)
    rw [nothing] at read
    exact read
  induction count with
  | zero => rfl
  | succ count ih => simp [List.replicate_succ, Reader.readLines?, blank, ih]

/-- Without the blank lines at their end and with one behind them, lines are read as they are with all of these. -/
theorem readLines?_withoutTrailingBlanks {scopes after : List Text} {lines : List Text}
    {found : List Reader.Binding} (read : Reader.readLines? scopes lines = some (after, found)) :
    Reader.readLines? scopes (withoutTrailingBlanks lines ++ [[]]) = some (after, found) := by
  -- Blank lines are all that is taken away and all that is put behind.
  obtain ⟨count, laid⟩ := exists_append_replicate lines
  rw [laid, Reader.readLines?_append] at read
  simp only [readLines?_blanks] at read
  rw [Reader.readLines?_append]
  cases rest : Reader.readLines? scopes (withoutTrailingBlanks lines) with
  | none => simp [rest] at read
  | some before =>
    have blank : Reader.readLines? before.1 [[]] = some (before.1, []) := readLines?_blanks before.1 1
    simpa [rest, blank] using read

/-- The text of a module is read as the lines of its classes are. -/
theorem read?_moduleText (read : Reads [] (groupLines base 0 tree) bindings) :
    ∃ found, Reader.read? (moduleText base tree) = some found ∧ found.Perm bindings := by
  -- Behind the fixed lines there are those of the classes, and blank lines at the end make no difference.
  obtain ⟨after, found, _, done, same⟩ := read.read [] List.prefix_rfl
  refine ⟨found, ?_, same⟩
  rw [Reader.read?, splitOn_moduleText read.visible,
    withoutTrailingBlanks_append _ (exists_filled_groupLines base 0 tree), List.append_assoc,
    List.dropPrefix?_append_of_beq _ (by simp), Option.bind_some, readLines?_withoutTrailingBlanks done,
    Option.map_some]

/-- The body of the outermost class has a line that is not blank. -/
theorem exists_filled_bodyLines (base : Text) (tree : Node) : ∃ line ∈ bodyLines base 0 tree, line ≠ [] :=
  -- This is the docstring.
  ⟨indent 1 ++ rootDocstring, by simp [bodyLines, opening], by simp [indent]⟩

/-- The text of a module is that in front of the body of its outermost class, and the lines of the body. -/
theorem moduleText_eq (base : Text) (tree : Node) :
    moduleText base tree = Reader.front tree.name ++
      (Text.joinWith ['\n'] (withoutTrailingBlanks (bodyLines base 0 tree)) ++ ['\n']) := by
  -- Cutting blank lines off the end does not reach the first line of the class, as its body is not blank.
  have filled : withoutTrailingBlanks (bodyLines base 0 tree) ≠ [] := by
    simpa [withoutTrailingBlanks, List.dropWhile_eq_nil_iff] using exists_filled_bodyLines base tree
  have header : groupLines base 0 tree =
      [("class " ++ tree.name ++ "(_AssetGroup):" : Text)] ++ bodyLines base 0 tree := groupLines_eq base 0 tree
  rw [moduleText, header, ← List.append_assoc, withoutTrailingBlanks_append _ (exists_filled_bodyLines base tree),
    Text.joinWith_append _ (by simp) filled, Reader.front]
  simp

section Body

variable (read : Reads [tree.name] (bodyLines base 0 tree) bindings)
include read

/-- The body of the outermost class is cut at line feeds into its lines. -/
theorem splitOn_body :
    (Text.joinWith ['\n'] (withoutTrailingBlanks (bodyLines base 0 tree)) ++ ['\n']).splitOn '\n' =
      withoutTrailingBlanks (bodyLines base 0 tree) ++ [[]] := by
  -- Some line is not blank, so lines are left; and none of them holds a line feed.
  refine splitOn_joinWith_append ?_ fun line member => lineFeed_not_mem (read.visible line ?_)
  · simpa [withoutTrailingBlanks, List.dropWhile_eq_nil_iff] using exists_filled_bodyLines base tree
  · exact List.mem_reverse.mp ((List.dropWhile_sublist _).subset (List.mem_reverse.mp member))

/-- The text of a module is cut at line feeds into the lines in front of the body, and those of the body. -/
theorem splitOn_moduleText_eq : (moduleText base tree).splitOn '\n' =
    (Reader.front tree.name).dropLast.splitOn '\n' ++ (withoutTrailingBlanks (bodyLines base 0 tree) ++ [[]]) := by
  rw [moduleText_eq, Reader.splitOn_front_append, splitOn_body read]

/-- The body of the outermost class is read as its lines are. -/
theorem readBody?_moduleText : ∃ found, Reader.readBody? tree.name (moduleText base tree) = some found ∧
    found.Perm bindings := by
  -- Reading stops behind the class, and the blank lines at the end bind nothing.
  obtain ⟨after, found, _, done, same⟩ := read.read [tree.name] List.prefix_rfl
  refine ⟨found, ?_, same⟩
  rw [Reader.readBody?, moduleText_eq, List.dropPrefix?_append_of_beq _ (by simp), Option.bind_some,
    splitOn_body read, readLines?_withoutTrailingBlanks done, Option.map_some]

end Body

end Text

end AssetCatalog.Layout

namespace AssetCatalog.Reader

/-- A module binds its outermost class, where that is an identifier, and what it binds within it. -/
theorem read?_front_append {className : Text} (named : Unicode.isIdentifier className = true) (body : Text) :
    read? (front className ++ body) =
      (readBody? className (front className ++ body)).map (⟨[], className, none⟩ :: ·) := by
  have sign : Visible "class ".toList := by decide
  have base : Visible "(_AssetGroup):".toList := by decide
  have header : Visible ("class ".toList ++ className ++ "(_AssetGroup):".toList) := by
    simp only [visible_append, sign, Reads.visible_identifier named, base, and_self]
  -- In front of the body are the fixed lines and the one that opens the class.
  have lines : (front className).dropLast.splitOn '\n' =
      Layout.preamble ++ ["class ".toList ++ className ++ "(_AssetGroup):".toList] := by
    rw [front, List.dropLast_concat]
    refine Text.splitOn_joinWith (by simp) fun line member => Layout.lineFeed_not_mem ?_
    rcases List.mem_append.mp member with fixed | last
    · exact Layout.visible_preamble line fixed
    · exact List.mem_singleton.mp last ▸ header
  have starts : ("class ".toList ++ className ++ "(_AssetGroup):".toList).head? ≠ some ' ' := by
    have word : "class ".toList = 'c' :: "lass ".toList := by decide
    simp [word]
  -- At the outermost level that line opens the class, and the body is read in its scope.
  have opened : readLine? [] ("class ".toList ++ className ++ "(_AssetGroup):".toList) =
      some ([className], [⟨[], className, none⟩]) := by
    have read := readLine?_indent [] 0 starts
    rwa [statement?_class named] at read
  rw [read?, readBody?, splitOn_front_append, lines, List.append_assoc,
    List.dropPrefix?_append_of_beq _ (by simp), List.dropPrefix?_append_of_beq _ (by simp), Option.bind_some,
    Option.bind_some, List.singleton_append, readLines?, opened]
  cases read : readLines? [className] (body.splitOn '\n') <;> simp [read]

end AssetCatalog.Reader
