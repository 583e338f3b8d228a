import AssetCatalog.Proofs.HardcodedPath.Visit
import AssetCatalog.Proofs.Source.Statement

/-! The strings that a walk over a syntax tree reports, told by what is around each of them. -/

namespace AssetCatalog.HardcodedPath

open AssetCatalog.Source

variable {className : Text} {tree node ancestor : Node} {path : List Nat} {occurrence : Occurrence}

/-- Whether nothing in a construct is reported: an interpolated string, an assertion, or a constant. -/
def hides (node : Node) : Bool :=
  match node.kind, node.children with
  | .interpolated, _ | .assertion, _ => true
  | .annotated, _ :: hint :: _ => isConstantAnnotation hint
  | _, _ => false

/-- Whether a construct is a comparison, a call from a class that holds assets, or a subscript of such a class. -/
def allows (className : Text) (node : Node) : Bool :=
  match node.kind, node.children with
  | .call, callee :: _ =>
    (calledName? callee).any comparisons.contains || isGroupRooted className (dottedName callee)
  | .subscript, value :: _ => isGroupRooted className (dottedName value)
  | _, _ => false

/-- A string of a tree is to be reported. -/
structure IsReported (className : Text) (tree : Node) (path : List Nat) (occurrence : Occurrence) : Prop where
  /-- The path leads to the string. -/
  literal : tree.at? path = some ⟨.text occurrence.value occurrence.position, []⟩
  /-- It looks like the path of an asset, and has no place for a value in it. -/
  spelledOut : AssetPath.isLike occurrence.value = true ∧ '\x7b' ∉ occurrence.value ∧ '$' ∉ occurrence.value
  /-- It is not within a construct in which nothing is reported. -/
  shown : ∀ ancestor ∈ tree.around path, hides ancestor = false
  /-- It is not all of a statement. -/
  used : ∀ parent ∈ (tree.around path).getLast?, parent.kind ≠ .expression
  /-- It is not within a construct that may spell out paths. -/
  barred : ∀ ancestor ∈ tree.around path, allows className ancestor = false

/-- A name with attributes has no string in it. -/
theorem dottedName_of_text {value : Text} {position : Position} : ∀ {node : Node} {path : List Nat},
    node.WellFormed → node.at? path = some ⟨.text value position, []⟩ → dottedName node = [] := by
  intro node path
  -- The string is the innermost value of the attributes, and a name has no parts to hold it.
  induction path generalizing node with
  | nil =>
    intro _ found
    cases found
    rfl
  | cons index path ih =>
    intro wellFormed found
    obtain ⟨kind, children⟩ := node
    obtain ⟨child, known, below⟩ := Node.exists_part_of_at? found
    have inside := ih (wellFormed.part (List.mem_of_getElem? known)) below
    cases kind with
    | name identifier =>
      obtain rfl : children = [] := by simpa using wellFormed.fits
      cases known
    | «attribute» identifier =>
      -- An attribute has one part, which then holds the string.
      obtain ⟨only, rfl⟩ : ∃ only, children = [only] :=
        List.length_eq_one_iff.mp (by simpa using wellFormed.fits)
      obtain rfl := List.mem_singleton.mp (List.mem_of_getElem? known)
      rw [dottedName, dottedNameOfFirst, inside]
    | _ => rfl

/-- An attribute of something without a name has no name itself. -/
theorem dottedName_attribute_eq_nil {identifier : Text} {value : Node} {rest : List Node}
    (none : dottedName ⟨.attribute identifier, value :: rest⟩ = []) : dottedName value = [] := by
  -- With a name in front, the attribute would have added its own to it.
  rw [dottedName, dottedNameOfFirst] at none
  split at none
  · assumption
  · exact absurd none (List.append_ne_nil_of_right_ne_nil _ (List.cons_ne_nil _ _))

/-- Around a string, an attribute allows nothing: the class that it is of would be a name. -/
theorem exempts_of_text {value : Text} {position : Position} {path : List Nat} (wellFormed : node.WellFormed)
    (found : node.at? path = some ⟨.text value position, []⟩) : exempts className node = allows className node := by
  -- The value of an attribute has the string in it as well, so it is no name of a class.
  have named := dottedName_of_text wellFormed found
  obtain ⟨kind, children⟩ := node
  cases kind with
  | «attribute» identifier =>
    cases children with
    | nil => rfl
    | cons value rest =>
      have unnamed := dottedName_attribute_eq_nil named
      simp only [exempts, unnamed]
      rfl
  | _ => cases children <;> rfl

/-- On the way to a string, only the string itself is one. -/
theorem isText_of_text {value : Text} {position : Position} {path : List Nat} (wellFormed : node.WellFormed)
    (found : node.at? path = some ⟨.text value position, []⟩) : isText node = path.isEmpty := by
  -- At its own place the string is one, and farther out a string would have parts.
  cases path with
  | nil =>
    cases found
    rfl
  | cons index path =>
    obtain ⟨kind, children⟩ := node
    obtain ⟨child, known, _⟩ := Node.exists_part_of_at? found
    -- A string on the way would have a part, to which the next step leads.
    cases kind with
    | text other place =>
      obtain rfl : children = [] := by simpa using wellFormed.fits
      cases known
    | _ => rfl

/-- What is passed over on the way to a string hides it, or is a statement that is the string. -/
theorem isPassedOver_of_text {value : Text} {position : Position} {index : Nat} {path : List Nat}
    (wellFormed : node.WellFormed) (found : node.at? (index :: path) = some ⟨.text value position, []⟩) :
    isPassedOver node = (hides node || (node.kind == .expression && path.isEmpty)) := by
  -- Only a statement and an annotation ask for more than the kind of the construct.
  obtain ⟨kind, children⟩ := node
  obtain ⟨child, known, below⟩ := Node.exists_part_of_at? found
  have member := List.mem_of_getElem? known
  cases kind with
  | expression =>
    -- The only part of the statement is the string, if the path ends there.
    obtain ⟨only, rfl⟩ : ∃ only, children = [only] :=
      List.length_eq_one_iff.mp (by simpa using wellFormed.fits)
    obtain rfl := List.mem_singleton.mp member
    exact isText_of_text (wellFormed.part member) below
  | annotated =>
    rcases children with _ | ⟨_, _ | ⟨hint, _⟩⟩
    · rfl
    · rfl
    · exact (Bool.or_false _).symm
  | _ => rfl

section Around

variable {value : Text} {position : Position}

/-- A construct around a string is well formed, and a path leads from it to the string. -/
theorem exists_path_of_mem_around (wellFormed : tree.WellFormed)
    (found : tree.at? path = some ⟨.text value position, []⟩) (member : ancestor ∈ tree.around path) :
    ancestor.WellFormed ∧ ∃ front index back, path = front ++ index :: back ∧ tree.at? front = some ancestor ∧
      ancestor.at? (index :: back) = some ⟨.text value position, []⟩ := by
  -- The construct is led to by a front of the path, and what is led to is well formed with the tree.
  obtain ⟨front, index, back, same, led, rest⟩ := Node.exists_of_mem_around found member
  exact ⟨wellFormed.at? led, front, index, back, same, led, rest⟩

/-- What is around a string keeps it from being reported only if it allows paths within it. -/
theorem any_exempts_around (wellFormed : tree.WellFormed) (found : tree.at? path = some ⟨.text value position, []⟩) :
    (tree.around path).any (exempts className) = false ↔
      ∀ ancestor ∈ tree.around path, allows className ancestor = false := by
  -- Constructs around a string have parts, so that the shape of each of them is known.
  rw [List.any_eq_false]
  refine forall₂_congr fun ancestor member => ?_
  obtain ⟨shaped, _, _, _, _, _, rest⟩ := exists_path_of_mem_around wellFormed found member
  rw [exempts_of_text shaped rest, Bool.not_eq_true]

/-- A string is reached unless something around it hides it, or it is all of a statement. -/
theorem any_isPassedOver_around (wellFormed : tree.WellFormed)
    (found : tree.at? path = some ⟨.text value position, []⟩) :
    (tree.around path).any isPassedOver = false ↔ (∀ ancestor ∈ tree.around path, hides ancestor = false) ∧
      ∀ parent ∈ (tree.around path).getLast?, parent.kind ≠ .expression := by
  -- What is passed over is looked at construct by construct, and the last one around the string alone is special.
  rw [List.any_eq_false]
  constructor
  · intro reached
    refine ⟨fun ancestor member => ?_, fun parent last => ?_⟩
    · obtain ⟨shaped, _, _, _, _, _, rest⟩ := exists_path_of_mem_around wellFormed found member
      have looked := reached ancestor member
      rw [isPassedOver_of_text shaped rest, Bool.not_eq_true, Bool.or_eq_false_iff] at looked
      exact looked.1
    · obtain ⟨front, index, _, led, rest⟩ := Node.exists_of_mem_getLast?_around found last
      have looked := reached parent (List.mem_of_getLast? last)
      rw [isPassedOver_of_text (wellFormed.at? led) rest, Bool.not_eq_true, Bool.or_eq_false_iff] at looked
      simpa using looked.2
  · rintro ⟨shown, used⟩ ancestor member
    obtain ⟨shaped, front, index, back, rfl, led, rest⟩ := exists_path_of_mem_around wellFormed found member
    rw [isPassedOver_of_text shaped rest, shown ancestor member]
    cases back with
    | nil =>
      -- The construct right around the string is the only one whose part the string is.
      have parent := used ancestor (Node.getLast?_around index led)
      simpa using parent
    | cons _ _ => simp

end Around

/-- A string that is spelled out looks like a path, and has neither of the signs of a place for a value. -/
theorem isSpelledOut_iff {value : Text} :
    isSpelledOut value = true ↔ AssetPath.isLike value = true ∧ '\x7b' ∉ value ∧ '$' ∉ value := by
  simp [isSpelledOut, and_assoc]

/-- The string at a path of a well formed tree is what the path leads to. -/
theorem literal?_eq_some_iff (wellFormed : tree.WellFormed) : literal? tree path = some occurrence ↔
    tree.at? path = some ⟨.text occurrence.value occurrence.position, []⟩ := by
  -- Strings of a well formed tree have no parts, which the search for one does not ask for.
  constructor
  · intro known
    rw [literal?] at known
    split at known
    · next value position children found =>
      cases known
      obtain rfl : children = [] := by simpa using (wellFormed.at? found).fits
      exact found
    · cases known
  · intro found
    rw [literal?, found]

/-- A walk from the root of a tree finds at a path just the string that is to be reported there. -/
theorem found?_eq_some_iff (wellFormed : tree.WellFormed) :
    found? className [] tree path = some occurrence ↔ IsReported className tree path occurrence := by
  -- The conditions of the walk are those of a report one by one, seen from the string.
  rw [found?, Option.filter_eq_some_iff, literal?_eq_some_iff wellFormed]
  simp only [List.append_nil, Bool.and_eq_true, Bool.not_eq_eq_eq_not, Bool.not_true, isSpelledOut_iff]
  constructor
  · rintro ⟨found, ⟨spelledOut, reached⟩, barred⟩
    obtain ⟨shown, used⟩ := (any_isPassedOver_around wellFormed found).mp reached
    exact ⟨found, spelledOut, shown, used, (any_exempts_around wellFormed found).mp barred⟩
  · rintro ⟨found, spelledOut, shown, used, barred⟩
    exact ⟨found, ⟨spelledOut, (any_isPassedOver_around wellFormed found).mpr ⟨shown, used⟩⟩,
      (any_exempts_around wellFormed found).mpr barred⟩

/-- The strings to be reported with the paths to them, in the order of the tree. -/
def reports (className : Text) (tree : Node) : List (List Nat × Occurrence) :=
  tree.paths.filterMap fun path => (found? className [] tree path).map (path, ·)

/-- A string is among those to be reported if a walk finds it at its path. -/
theorem mem_reports_iff (wellFormed : tree.WellFormed) :
    (path, occurrence) ∈ reports className tree ↔ IsReported className tree path occurrence := by
  -- The walk tries all paths of the tree, and a path to a string is one of them.
  rw [reports, List.mem_filterMap]
  constructor
  · rintro ⟨place, _, known⟩
    obtain ⟨_, found, same⟩ := Option.map_eq_some_iff.mp known
    cases same
    exact (found?_eq_some_iff wellFormed).mp found
  · intro reported
    refine ⟨path, ?_, ?_⟩
    · exact Node.mem_paths_iff.mpr (Option.isSome_of_eq_some reported.literal)
    · rw [(found?_eq_some_iff wellFormed).mpr reported, Option.map_some]

/-- The paths to the strings to be reported go up. -/
theorem pairwise_reports : (reports className tree).Pairwise fun first second => first.1 < second.1 := by
  -- The paths of the tree go up, and the strings are found at some of them.
  refine List.Pairwise.filterMap _ (fun first second less => ?_) tree.pairwise_paths
  intro one known other also
  obtain ⟨_, _, rfl⟩ := Option.map_eq_some_iff.mp known
  obtain ⟨_, _, rfl⟩ := Option.map_eq_some_iff.mp also
  exact less

/-- The strings to be reported are the findings at the paths of the tree. -/
theorem map_reports : (reports className tree).map Prod.snd = findings className [] tree := by
  -- A finding is what is reported, without the path in front.
  rw [reports, findings, List.map_filterMap]
  congr 1
  funext path
  rw [Option.map_map]
  exact Option.map_id'

/-- A walk from the root of a tree meets the strings to be reported, and comes back to the root. -/
theorem visit_root (wellFormed : tree.WellFormed) :
    visit className {} tree = { found := ((reports className tree).map Prod.snd).reverse } := by
  rw [visit_eq tree wellFormed, map_reports, List.append_nil]

/-- The warnings for a tree are those for the strings to be reported. -/
theorem map_warning_occurrences (fileName : Text) (wellFormed : tree.WellFormed) :
    (occurrences className tree).map (warning fileName className) = (reports className tree).map fun report =>
      Diagnostic.hardcodedPath report.2.value className (some fileName) (some report.2.position.line)
        (some (report.2.position.column + 1)) := by
  -- The walk puts each string in front of the earlier ones, and they are turned round once.
  rw [occurrences, visit_root wellFormed, List.reverse_reverse, List.map_map]
  rfl

/-- A walk over a tree warns of just the strings to be reported, in the order of the tree, each at its own place, and
ends with no construct around it. -/
theorem visit_reports (fileName className : Text) (tree : Node) (wellFormed : tree.WellFormed) :
    (visit className {} tree).ancestors = [] ∧
      ∃ reports : List (List Nat × Occurrence),
        reports.Pairwise (fun first second => first.1 < second.1) ∧
        (∀ path occurrence, (path, occurrence) ∈ reports ↔ IsReported className tree path occurrence) ∧
        (occurrences className tree).map (warning fileName className) = reports.map fun report =>
          Diagnostic.hardcodedPath report.2.value className (some fileName) (some report.2.position.line)
            (some (report.2.position.column + 1)) := by
  -- The strings to be reported are listed by a recursion over the tree, which the walk agrees with.
  refine ⟨by rw [visit_root wellFormed], reports className tree, pairwise_reports, ?_, ?_⟩
  · exact fun _ _ => mem_reports_iff wellFormed
  · exact map_warning_occurrences fileName wellFormed

/-- A call that gives two paths, the first of them to a class that holds assets. -/
def twoPaths : Node :=
  .group [⟨.expression, [⟨.call, [⟨.name "load".toList, []⟩,
    ⟨.call, [⟨.attribute "resolve".toList, [⟨.name "StaticAssets".toList, []⟩]⟩,
      ⟨.text "/images/a.png".toList ⟨1, 26⟩, []⟩]⟩,
    ⟨.text "/images/b.png".toList ⟨1, 43⟩, []⟩]⟩]⟩]

/-- Of two paths in a call, only the one that is not given to the class is reported. -/
theorem visit_reports_twoPaths : twoPaths.WellFormed ∧
    occurrences "StaticAssets".toList twoPaths = [⟨"/images/b.png".toList, ⟨1, 43⟩⟩] ∧
    (visit "StaticAssets".toList {} twoPaths).ancestors = [] ∧
      ∃ reports : List (List Nat × Occurrence),
        reports.Pairwise (fun first second => first.1 < second.1) ∧
        (∀ path occurrence,
          (path, occurrence) ∈ reports ↔ IsReported "StaticAssets".toList twoPaths path occurrence) ∧
        (occurrences "StaticAssets".toList twoPaths).map (warning "app.py".toList "StaticAssets".toList) =
          reports.map fun report => Diagnostic.hardcodedPath report.2.value "StaticAssets".toList
            (some "app.py".toList) (some report.2.position.line) (some (report.2.position.column + 1)) := by
  have wellFormed : twoPaths.WellFormed := by
    simp [twoPaths]
  exact ⟨wellFormed, by decide +kernel, visit_reports "app.py".toList "StaticAssets".toList twoPaths wellFormed⟩

/-- A source cannot be inspected for the reason that the parser refuses it. -/
theorem parse_eq_error_of_inspect {fileName className source : Text} {fault : Fault}
    (inspected : inspect fileName className source = .error fault) : parse source = .error fault := by
  -- A generated source is not parsed, and any other one is inspected as soon as it is parsed.
  rw [inspect] at inspected
  split at inspected
  · cases inspected
  · cases parsed : parse source with
    | error reason =>
      rw [parsed] at inspected
      cases inspected
      rfl
    | ok tree =>
      rw [parsed] at inspected
      cases inspected

/-- The warnings for a source are those for the strings to be reported in its tree; a generated one has none. -/
theorem warnings_of_inspect {fileName className source : Text} {warnings : List Diagnostic}
    (inspected : inspect fileName className source = .ok warnings) :
    (isGenerated source = true ∧ warnings = []) ∨
      isGenerated source = false ∧ ∃ tree, parse source = .ok tree ∧ tree.WellFormed ∧
        warnings = (reports className tree).map fun report =>
          Diagnostic.hardcodedPath report.2.value className (some fileName) (some report.2.position.line)
            (some (report.2.position.column + 1)) := by
  -- Generated sources are not parsed; for others there are warnings only if the parser accepts them.
  rw [inspect] at inspected
  cases generated : isGenerated source with
  | true =>
    rw [generated, if_pos rfl] at inspected
    exact .inl ⟨rfl, (Except.ok.inj inspected).symm⟩
  | false =>
    rw [generated, if_neg Bool.false_ne_true] at inspected
    cases parsed : parse source with
    | error fault =>
      rw [parsed] at inspected
      cases inspected
    | ok tree =>
      rw [parsed] at inspected
      -- The parser gives well formed trees only, so the walk finds what is to be reported.
      have wellFormed := wellFormed_of_parse parsed
      exact .inr ⟨rfl, tree, rfl, wellFormed, (Except.ok.inj inspected).symm.trans
        (map_warning_occurrences fileName wellFormed)⟩

end AssetCatalog.HardcodedPath
