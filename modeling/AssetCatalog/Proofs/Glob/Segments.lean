import AssetCatalog.Glob
import Mathlib.Data.List.Forall2

/-! Patterns match segment by segment: what two patterns match one after the other is what they match together. -/

namespace AssetCatalog.Glob

open List (Forall₂)

variable {pattern : Text} {patterns parts ending : List Text}

/-- The pattern segment that takes any number of path segments. -/
def anySegments : Text :=
  ['*', '*']

/-- The endings of a list are what is left behind some front of it. -/
theorem mem_endings_iff {α : Type} {list ending : List α} :
    ending ∈ endings list ↔ ∃ front, list = front ++ ending := by
  -- The longest ending has nothing in front of it, and all others leave out the first element too.
  induction list with
  | nil => simp [endings, eq_comm]
  | cons x rest ih =>
    rw [endings, List.mem_cons, ih]
    constructor
    · rintro (rfl | ⟨front, rfl⟩)
      · exact ⟨[], rfl⟩
      · exact ⟨x :: front, rfl⟩
    · rintro ⟨front, whole⟩
      cases front with
      | nil => exact .inl whole.symm
      | cons _ front =>
        obtain ⟨-, behind⟩ := List.cons.inj whole
        exact .inr ⟨front, behind⟩

/-- No pattern segments match no path segments only. -/
theorem matchesSegments_nil : matchesSegments [] parts = true ↔ parts = [] := by
  rw [matchesSegments, List.isEmpty_iff]

/-- Two stars take some path segments, and the pattern segments behind them match the others. -/
theorem matchesSegments_anySegments :
    matchesSegments (anySegments :: patterns) parts = true ↔
      ∃ taken rest, parts = taken ++ rest ∧ matchesSegments patterns rest = true := by
  have unfolded : matchesSegments (anySegments :: patterns) parts = (endings parts).any (matchesSegments patterns) :=
    if_pos rfl
  -- What is left behind the taken segments is an ending of all of them.
  rw [unfolded, List.any_eq_true]
  constructor
  · rintro ⟨rest, member, matched⟩
    obtain ⟨taken, whole⟩ := mem_endings_iff.mp member
    exact ⟨taken, rest, whole, matched⟩
  · rintro ⟨taken, rest, whole, matched⟩
    exact ⟨rest, mem_endings_iff.mpr ⟨taken, whole⟩, matched⟩

/-- Any other pattern segment matches the first path segment, and those behind it match the rest. -/
theorem matchesSegments_cons (other : pattern ≠ anySegments) :
    matchesSegments (pattern :: patterns) parts = true ↔
      ∃ part rest, parts = part :: rest ∧ matchesName pattern part = true ∧ matchesSegments patterns rest = true := by
  -- The two stars aside, a segment is matched by itself.
  have single : ¬pattern = ['*', '*'] := other
  cases parts with
  | nil => simp [matchesSegments, single]
  | cons part rest => simp [matchesSegments, single]

/-- Pattern segments in two parts match what splits into path segments for the one part and for the other. -/
theorem matchesSegments_append (first second : List Text) : ∀ parts : List Text,
    matchesSegments (first ++ second) parts = true ↔
      ∃ front back, parts = front ++ back ∧ matchesSegments first front = true ∧
        matchesSegments second back = true := by
  -- The induction is over the first part; what its first segment takes is put in front of the split of the rest.
  induction first with
  | nil =>
    intro parts
    simp only [List.nil_append, matchesSegments_nil]
    constructor
    · intro matched
      exact ⟨[], parts, rfl, rfl, matched⟩
    · rintro ⟨_, back, whole, rfl, matched⟩
      rw [whole]
      exact matched
  | cons pattern first ih =>
    intro parts
    rw [List.cons_append]
    by_cases stars : pattern = anySegments
    · -- What two stars take stays the same, whether the cut comes behind their segments or not.
      subst stars
      simp only [matchesSegments_anySegments, ih]
      constructor
      · rintro ⟨taken, _, rfl, front, back, rfl, here, there⟩
        exact ⟨taken ++ front, back, by rw [List.append_assoc], ⟨taken, front, rfl, here⟩, there⟩
      · rintro ⟨_, back, rfl, ⟨taken, front, rfl, here⟩, there⟩
        exact ⟨taken, front ++ back, by rw [List.append_assoc], front, back, rfl, here, there⟩
    · simp only [matchesSegments_cons stars, ih]
      constructor
      · rintro ⟨part, _, rfl, named, front, back, rfl, here, there⟩
        exact ⟨part :: front, back, rfl, ⟨part, front, rfl, named, here⟩, there⟩
      · rintro ⟨_, back, rfl, ⟨part, front, rfl, named, here⟩, there⟩
        exact ⟨part, front ++ back, rfl, named, front, back, rfl, here, there⟩

/-- Two stars match whatever segments there are, and so do several of them side by side. -/
theorem matchesSegments_replicate (further : Nat) : ∀ parts : List Text,
    matchesSegments (List.replicate (further + 1) anySegments) parts = true := by
  -- The first two stars take everything if they are alone, and nothing if others follow.
  induction further with
  | zero =>
    intro parts
    exact matchesSegments_anySegments.mpr ⟨parts, [], by rw [List.append_nil], rfl⟩
  | succ further ih =>
    intro parts
    rw [List.replicate_succ]
    exact matchesSegments_anySegments.mpr ⟨[], parts, rfl, ih parts⟩

/-- Two stars that come several times side by side match what they match once. -/
theorem matchesSegments_repeated (front back : List Text) (further : Nat) (parts : List Text) :
    matchesSegments (front ++ (List.replicate (further + 1) anySegments ++ back)) parts =
      matchesSegments (front ++ anySegments :: back) parts := by
  have once : anySegments :: back = List.replicate (0 + 1) anySegments ++ back := rfl
  rw [Bool.eq_iff_iff, once]
  simp only [matchesSegments_append, matchesSegments_replicate]

/-- Without two stars each pattern segment matches the path segment at its place, and there are as many of both. -/
theorem matchesSegments_iff_forall₂ (plain : anySegments ∉ patterns) : ∀ {parts : List Text},
    matchesSegments patterns parts = true ↔
      Forall₂ (fun pattern part => matchesName pattern part = true) patterns parts := by
  -- A pattern segment that is not two stars takes exactly one path segment.
  induction patterns with
  | nil =>
    intro parts
    rw [matchesSegments_nil, List.forall₂_nil_left_iff]
  | cons pattern patterns ih =>
    intro parts
    obtain ⟨other, others⟩ := List.ne_and_not_mem_of_not_mem_cons plain
    rw [matchesSegments_cons (Ne.symm other), List.forall₂_cons_left_iff]
    simp only [ih others]
    -- The path has a first segment in both cases, which the pattern segment matches.
    constructor
    · rintro ⟨part, rest, rfl, named, later⟩
      exact ⟨part, rest, named, later, rfl⟩
    · rintro ⟨part, rest, named, later, rfl⟩
      exact ⟨part, rest, rfl, named, later⟩

/--
How patterns compose.

Pattern segments in two parts match what splits into segments for each part.
A path matches a pattern whatever the number of times that two stars come side by side in it.
A pattern without two stars matches the paths with as many segments, each of which matches the one at its place.
-/
theorem matchesSegments_composed :
    (∀ first second parts : List Text, matchesSegments (first ++ second) parts = true ↔
      ∃ front back, parts = front ++ back ∧ matchesSegments first front = true ∧
        matchesSegments second back = true) ∧
    (∀ (pattern repeated path : Text) (front back : List Text) (further : Nat),
      pattern.splitOn '/' = front ++ anySegments :: back →
      repeated.splitOn '/' = front ++ (List.replicate (further + 1) anySegments ++ back) →
        matchesPath repeated path = matchesPath pattern path) ∧
    ∀ pattern path : Text, anySegments ∉ pattern.splitOn '/' →
      (matchesPath pattern path = true ↔
        Forall₂ (fun pattern part => matchesName pattern part = true) (pattern.splitOn '/') (path.splitOn '/')) := by
  -- Paths are matched as the lists of their segments, so each part is its lemma on segments.
  refine ⟨matchesSegments_append, ?_, ?_⟩
  · intro pattern repeated path front back further once often
    rw [matchesPath, matchesPath, once, often]
    exact matchesSegments_repeated front back further (path.splitOn '/')
  · intro pattern path plain
    exact matchesSegments_iff_forall₂ plain

/-- Two stars reach a file two directories down, also when they come twice, and one star does not. -/
theorem matchesSegments_composed_nested :
    matchesPath "css/**/**/*.min.css" "css/a/b/x.min.css" = true ∧
      matchesPath "css/**/*.min.css" "css/a/b/x.min.css" = true ∧
      matchesPath "css/*.min.css" "css/a/b/x.min.css" = false := by
  -- The match is computed once, and the general laws carry it to the other patterns.
  obtain ⟨-, repeated, plain⟩ := matchesSegments_composed
  have reached : matchesPath "css/**/*.min.css" "css/a/b/x.min.css" = true := by decide +kernel
  refine ⟨?_, reached, ?_⟩
  · have twice := repeated "css/**/*.min.css" "css/**/**/*.min.css" "css/a/b/x.min.css" ["css".toList]
      ["*.min.css".toList] 1 (by decide +kernel) (by decide +kernel)
    rw [twice]
    exact reached
  · -- The path has four segments, and the pattern has two.
    have counted := plain "css/*.min.css" "css/a/b/x.min.css" (by decide +kernel)
    rw [← Bool.not_eq_true, counted]
    intro paired
    have lengths := paired.length_eq
    revert lengths
    decide +kernel

end AssetCatalog.Glob
