import AssetCatalog.Proofs.HardcodedPath.Report
import AssetCatalog.Proofs.Source.Order

/-! The order of the warnings for a source: where it is that of their places, and what turns it. -/

namespace AssetCatalog.HardcodedPath

open AssetCatalog.Source

variable {className : Text} {tree node : Node} {path : List Nat} {occurrence : Occurrence}

/-- Warnings stand in the order of their places: by their lines, and on one line by their columns. -/
def InOrder (warnings : List Diagnostic) : Prop :=
  warnings.Pairwise fun first second =>
    toLex (first.line.getD 0, first.column.getD 0) ≤ toLex (second.line.getD 0, second.column.getD 0)

/-- A construct turns the order of the strings to be reported in two of its parts: all strings of the part that comes
later in the tree stand in front of those of the other. -/
structure Turns (className : Text) (tree : Node) (path : List Nat) (node : Node) : Prop where
  /-- The construct stands within the tree, and is not all of it. -/
  within : tree.at? path = some node ∧ path ≠ []
  /-- It is free in the order of its parts. -/
  free : node.kind.isFree = true
  /-- Two of its parts with strings to be reported stand in the source the other way round. -/
  turned : ∃ index later first second, index < later ∧ node.children[index]? = some first ∧
    node.children[later]? = some second ∧ second.Ahead first ∧
    (∃ below occurrence, IsReported className tree (path ++ index :: below) occurrence) ∧
    ∃ below occurrence, IsReported className tree (path ++ later :: below) occurrence

/-- Of two paths in lexicographic order the second goes on from the first, or they part at some step. -/
theorem exists_of_lt {second : List Nat} : ∀ {first : List Nat}, first < second →
    (∃ index below, second = first ++ index :: below) ∨
      ∃ front index later below beyond, index < later ∧ first = front ++ index :: below ∧
        second = front ++ later :: beyond := by
  -- Step by step, until the first path ends or the two steps differ.
  induction second with
  | nil => exact fun less => absurd less (List.not_lt_nil _)
  | cons next rest ih =>
    intro first less
    cases first with
    | nil => exact .inl ⟨next, rest, rfl⟩
    | cons step steps =>
      rcases List.cons_lt_cons_iff.mp less with smaller | ⟨rfl, further⟩
      · exact .inr ⟨[], step, next, steps, rest, smaller, rfl, rfl⟩
      · -- After equal steps the paths are compared on, and the step comes in front of what they share.
        rcases ih further with ⟨index, below, rfl⟩ | ⟨front, index, later, below, beyond, apart, rfl, rfl⟩
        · exact .inl ⟨index, below, rfl⟩
        · exact .inr ⟨step :: front, index, later, below, beyond, apart, rfl, rfl⟩

/-- Behind a string to be reported no path goes on. -/
theorem IsReported.at?_append_cons (reported : IsReported className tree path occurrence) (index : Nat)
    (below : List Nat) : tree.at? (path ++ index :: below) = none := by
  -- The path already ends at the string, which has no parts.
  rw [Node.at?_append, reported.literal]
  rfl

/-- A string to be reported within a part is one that the part holds. -/
theorem IsReported.holds_part {index : Nat} {below : List Nat} {part : Node}
    (reported : IsReported className tree (path ++ index :: below) occurrence) (found : tree.at? path = some node)
    (known : node.children[index]? = some part) : part.Holds occurrence.position := by
  -- The rest of the path leads from the part to the string.
  have literal := reported.literal
  rw [Node.at?_append, found, Option.bind_some, Node.at?_cons known] at literal
  exact ⟨below, occurrence.value, literal⟩

/-- A step of the path to a string to be reported leads from a construct into one of its parts. -/
theorem IsReported.exists_part {index : Nat} {below : List Nat}
    (reported : IsReported className tree (path ++ index :: below) occurrence) :
    ∃ node part, tree.at? path = some node ∧ node.children[index]? = some part := by
  -- The path goes on below the construct, and so into one of its parts.
  have literal := reported.literal
  rw [Node.at?_append] at literal
  obtain ⟨node, found, rest⟩ := Option.bind_eq_some_iff.mp literal
  obtain ⟨part, known, _⟩ := Node.exists_part_of_at? rest
  exact ⟨node, part, found, known⟩

/-- Of two strings to be reported the one that comes first in the tree also stands first in the source, unless a
construct around both turns their order. -/
theorem rank_le_of_lt {source : Text} {first second : List Nat} {front back : Occurrence}
    (parsed : parse source = .ok tree) (straight : ∀ path node, ¬ Turns className tree path node)
    (less : first < second) (reported : IsReported className tree first front)
    (also : IsReported className tree second back) : front.position.rank ≤ back.position.rank := by
  rcases exists_of_lt less with ⟨index, below, rfl⟩ | ⟨path, index, later, below, beyond, apart, rfl, rfl⟩
  · -- A string has no parts for the second path to go into.
    have literal := also.literal
    rw [reported.at?_append_cons] at literal
    cases literal
  · -- The paths part at one construct, and its parts stand in front of each other one way or the other.
    obtain ⟨node, part, found, known⟩ := reported.exists_part
    obtain ⟨other, next, same, there⟩ := also.exists_part
    obtain rfl : node = other := Option.some.inj (found.symm.trans same)
    have frontHeld := reported.holds_part found known
    have backHeld := also.holds_part found there
    obtain ⟨bound, here⟩ := List.getElem?_eq_some_iff.mp known
    obtain ⟨within, behind⟩ := List.getElem?_eq_some_iff.mp there
    have sides := List.pairwise_iff_getElem.mp (pairwise_children_of_parse parsed found) index later bound within apart
    rw [here, behind] at sides
    rcases sides with ahead | ⟨⟨inner, free⟩, turned⟩
    · exact (ahead _ _ frontHeld backHeld).le
    · exact absurd ⟨⟨found, inner⟩, free, index, later, part, next, apart, known, there, turned,
        ⟨below, front, reported⟩, beyond, back, also⟩ (straight path node)

/-- The strings to be reported stand in the order of their places exactly if of two of them the one with the smaller
path stands first. -/
theorem pairwise_rank_reports_iff (wellFormed : tree.WellFormed) :
    (reports className tree).Pairwise (fun first second => first.2.position.rank ≤ second.2.position.rank) ↔
      ∀ first second front back, first < second → IsReported className tree first front →
        IsReported className tree second back → front.position.rank ≤ back.position.rank := by
  constructor
  · -- Both strings are reported, so their positions in the list of reports can be compared.
    intro ordered first second front back less reported also
    obtain ⟨one, bound, here⟩ := List.mem_iff_getElem.mp ((mem_reports_iff wellFormed).mpr reported)
    obtain ⟨two, within, there⟩ := List.mem_iff_getElem.mp ((mem_reports_iff wellFormed).mpr also)
    -- The paths go up along the reports, so the smaller one comes first among them.
    have growing := List.pairwise_iff_getElem.mp (@pairwise_reports className tree)
    rcases lt_trichotomy one two with before | rfl | behind
    · have known := List.pairwise_iff_getElem.mp ordered one two bound within before
      rwa [here, there] at known
    · cases here.symm.trans there
      exact absurd less (lt_irrefl first)
    · have known := growing two one within bound behind
      rw [here, there] at known
      exact absurd less (lt_asymm known)
  · -- Reports are sorted by their paths, so of any two the one with the smaller path is first.
    intro each
    refine List.Pairwise.imp_of_mem (fun member also less => ?_) pairwise_reports
    exact each _ _ _ _ less ((mem_reports_iff wellFormed).mp member) ((mem_reports_iff wellFormed).mp also)

/-- The line and column of a warning are ordered as the place that they tell. -/
theorem toLex_le_toLex_iff {front back : Position} :
    toLex ((front.line : Int), (front.column : Int) + 1) ≤ toLex ((back.line : Int), (back.column : Int) + 1) ↔
      front.rank ≤ back.rank := by
  rw [Position.rank, Position.rank, Prod.Lex.toLex_le_toLex, Prod.Lex.toLex_le_toLex]
  dsimp only
  omega

/-- Warnings for strings stand in the order of their places exactly if the strings do. -/
theorem inOrder_map_iff {fileName : Text} {entries : List (List Nat × Occurrence)} :
    InOrder (entries.map fun report => Diagnostic.hardcodedPath report.2.value className (some fileName)
      (some report.2.position.line) (some (report.2.position.column + 1))) ↔
    entries.Pairwise fun first second => first.2.position.rank ≤ second.2.position.rank := by
  -- The class and file of the warnings are the same, so that the places decide.
  rw [InOrder, List.pairwise_map]
  exact List.Pairwise.iff fun _ _ => toLex_le_toLex_iff

/-- The strings to be reported in the tree of a source stand in the order of their places exactly if no construct
turns them. -/
theorem pairwise_rank_reports_iff_of_parse {source : Text} (parsed : parse source = .ok tree) :
    (reports className tree).Pairwise (fun first second => first.2.position.rank ≤ second.2.position.rank) ↔
      ∀ path node, ¬ Turns className tree path node := by
  rw [pairwise_rank_reports_iff (wellFormed_of_parse parsed)]
  constructor
  · rintro each path node ⟨⟨found, -⟩, -, index, later, first, second, apart, known, there, turned,
      ⟨below, front, reported⟩, beyond, back, also⟩
    -- What is turned stands strictly the other way round.
    have less : path ++ index :: below < path ++ later :: beyond :=
      List.append_left_lt (List.cons_lt_cons_iff.mpr (.inl apart))
    have le := each _ _ front back less reported also
    exact absurd (turned _ _ (also.holds_part found there) (reported.holds_part found known)) (not_lt_of_ge le)
  · exact fun straight first second front back less reported also => rank_le_of_lt parsed straight less reported also

/-- The warnings for a source stand in the order of their places exactly if no construct in its tree turns the strings
to be reported. -/
theorem inOrder_check_iff (fileName className source : Text) : InOrder (check fileName className source) ↔
    ∀ tree, isGenerated source = false → parse source = .ok tree → ∀ path node, ¬ Turns className tree path node := by
  rw [check]
  cases inspected : inspect fileName className source with
  | error fault =>
    -- A source that cannot be read has no warnings and no tree.
    refine iff_of_true .nil fun tree _ parsed => ?_
    cases parsed.symm.trans (parse_eq_error_of_inspect inspected)
  | ok warnings =>
    rcases warnings_of_inspect inspected with ⟨generated, rfl⟩ | ⟨apart, tree, parsed, -, rfl⟩
    · exact iff_of_true .nil fun _ apart => absurd (apart.symm.trans generated) Bool.false_ne_true
    · dsimp only
      -- The order of the warnings is that of the strings in the one tree of the source.
      rw [inOrder_map_iff, pairwise_rank_reports_iff_of_parse parsed]
      constructor
      · intro straight other _ also
        obtain rfl : tree = other := Except.ok.inj (parsed.symm.trans also)
        exact straight
      · exact fun straight => straight tree apart parsed

/-- A choice between a path and a number by another path. -/
def choiceOfPath : Text :=
  "x = \"/images/a.png\" if \"/images/b.png\" else 0\n".toList

/-- Warnings may come against the order of their places: of a choice the condition is looked at first, and stands in
the source behind the value. -/
theorem not_inOrder_check : ¬ ∀ fileName className source, InOrder (check fileName className source) := by
  -- The columns of the two warnings are evaluated, and the first of them is the greater.
  intro ordered
  have columns : (check "page.py".toList "StaticAssets".toList choiceOfPath).map
      (fun warning => toLex (warning.line.getD 0, warning.column.getD 0)) = [toLex (1, 24), toLex (1, 5)] := by
    decide +kernel
  have known := List.pairwise_map.mpr (ordered "page.py".toList "StaticAssets".toList choiceOfPath)
  rw [columns] at known
  exact absurd known (by decide)

end AssetCatalog.HardcodedPath
