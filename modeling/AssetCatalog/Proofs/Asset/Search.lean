import AssetCatalog.Proofs.Asset.Opening
import AssetCatalog.Proofs.Text.Joining
import Mathlib.Data.Nat.Find

/-! The search for the last asset root of a path, round by round, and what it finds among the path's segments. -/

namespace AssetCatalog.Asset

open List (Forall₂)
open Unicode (sameLetter)

section Rounds

variable {opening text : Text}

/-- The first place at which an opening starts: the text behind its first sign, and the text behind all of it. -/
def firstMatch? (opening : Text) : Text → Option (Text × Text)
  -- An opening has a sign at least, so none starts at the end.
  | [] => none
  | c :: text =>
    match afterOpening? opening (c :: text) with
    | some rest => some (text, rest)
    | none => firstMatch? opening text

/-- A search under way for the last place at which an opening starts. -/
structure Search where
  /-- The text from the place on at which the search goes on. -/
  ahead : Text
  /-- The text behind the opening found last, where one was found. -/
  found : Option Text

/-- The next round of a search goes on behind the first sign of what it finds, or there is none. -/
def Search.next? (opening : Text) (search : Search) : Option Search :=
  (firstMatch? opening search.ahead).map fun (ahead, rest) => ⟨ahead, some rest⟩

/-- Whether a search ends after some rounds, and with what result. -/
inductive Search.Ends (opening : Text) : Search → Nat → Option Text → Prop
  /-- A search that finds nothing more ends with what it found last. -/
  | done {search} : search.next? opening = none → Ends opening search 0 search.found
  /-- A search that finds something goes on. -/
  | round {search next rounds result} : search.next? opening = some next →
    Ends opening next rounds result → Ends opening search (rounds + 1) result

/-- A search that finds nothing has no opening ahead of it. -/
theorem afterLast?_of_firstMatch?_none (filled : opening ≠ []) (nothing : firstMatch? opening text = none) :
    afterLast? opening text = none := by
  -- The search passes every sign without an opening, and the end of the text.
  induction text with
  | nil =>
    obtain ⟨o, opening, rfl⟩ := List.exists_cons_of_ne_nil filled
    rfl
  | cons c text ih =>
    rw [firstMatch?] at nothing
    split at nothing
    next => cases nothing
    next unfound => rw [afterLast?_cons, ih nothing, unfound, Option.or_none]

/-- Behind the first sign of what a search finds is less text, and the last opening is there or is the one found. -/
theorem afterLast?_of_firstMatch? {ahead rest : Text} (matched : firstMatch? opening text = some (ahead, rest)) :
    ahead.length < text.length ∧ afterLast? opening text = (afterLast? opening ahead).or (some rest) := by
  -- The sign at which the search stops is the first with an opening, so all others are behind it.
  induction text with
  | nil => cases matched
  | cons c text ih =>
    rw [firstMatch?] at matched
    split at matched
    next found =>
      cases matched
      exact ⟨Nat.lt_succ_self _, by rw [afterLast?_cons, found]⟩
    next unfound =>
      obtain ⟨shorter, same⟩ := ih matched
      exact ⟨Nat.lt_succ_of_lt shorter, by rw [afterLast?_cons, unfound, Option.or_none, same]⟩

/-- A search ends after no more rounds than there are signs ahead, with the last opening ahead or else what it had. -/
theorem Search.exists_ends (filled : opening ≠ []) (search : Search) : ∃ rounds ≤ search.ahead.length,
    search.Ends opening rounds ((afterLast? opening search.ahead).or search.found) := by
  -- Every round leaves less text ahead.
  induction length : search.ahead.length using Nat.strong_induction_on generalizing search with
  | _ size ih =>
    cases matched : firstMatch? opening search.ahead with
    | none =>
      refine ⟨0, Nat.zero_le _, ?_⟩
      rw [afterLast?_of_firstMatch?_none filled matched, Option.none_or]
      exact .done (by rw [Search.next?, matched]; rfl)
    | some places =>
      obtain ⟨ahead, rest⟩ := places
      obtain ⟨shorter, same⟩ := afterLast?_of_firstMatch? matched
      -- A round takes what it found for the search's own, and goes on with the shorter text ahead.
      obtain ⟨rounds, few, ends⟩ := ih ahead.length (length ▸ shorter) ⟨ahead, some rest⟩ rfl
      have went : search.next? opening = some ⟨ahead, some rest⟩ := by rw [Search.next?, matched]; rfl
      refine ⟨rounds + 1, by omega, .round went ?_⟩
      rw [same, Option.or_assoc, Option.some_or]
      exact ends

/-- A search ends in one way. -/
theorem Search.Ends.unique {search : Search} {rounds others : Nat} {result other : Option Text}
    (ends : search.Ends opening rounds result) (also : search.Ends opening others other) :
    rounds = others ∧ result = other := by
  -- A search that stops cannot go on as well, and one that goes on does so in one way.
  induction ends generalizing others with
  | done stopped =>
    cases also with
    | done => exact ⟨rfl, rfl⟩
    | round went => cases stopped.symm.trans went
  | round went _ ih =>
    cases also with
    | done stopped => cases stopped.symm.trans went
    | round alsoWent rest =>
      cases went.symm.trans alsoWent
      obtain ⟨rfl, rfl⟩ := ih rest
      exact ⟨rfl, rfl⟩

end Rounds

section Segments

variable {root : Text} {segments : List Text}

/-- Whether a segment of a path is named like the asset root and has a segment on either side. -/
@[mk_iff]
structure IsRootAt (root : Text) (segments : List Text) (i : Nat) : Prop where
  /-- The path begins in front of the segment. -/
  inFront : 1 ≤ i
  /-- The path goes on behind the segment. -/
  behind : i + 1 < segments.length
  /-- The segment is spelled like the root, letter by letter. -/
  named : ∃ segment, segments[i]? = some segment ∧ SpelledLike root segment

/-- An opening that begins with a separator is found in front of no other sign. -/
theorem afterOpening?_separator {c : Char} (other : '/' ≠ c) (opening text : Text) :
    afterOpening? ('/' :: opening) (c :: text) = none := by
  -- No other character is the same letter as a separator.
  have differs : ¬ sameLetter '/' c := fun same =>
    other (Unicode.sameLetter_separator ((Unicode.sameLetter_comm _ _).symm.trans same)).symm
  rw [afterOpening?, if_neg differs]

/-- Without separators in it, a segment holds an opening only where the text behind it does. -/
theorem afterLast?_segment {segment : Text} (whole : '/' ∉ segment) (opening rest : Text) :
    afterLast? ('/' :: opening) (segment ++ rest) = afterLast? ('/' :: opening) rest := by
  -- The opening starts with a separator, which no sign of the segment is.
  induction segment with
  | nil => rfl
  | cons c segment ih =>
    obtain ⟨other, whole⟩ := List.ne_and_not_mem_of_not_mem_cons whole
    rw [List.cons_append, afterLast?_cons, ih whole, afterOpening?_separator other, Option.or_none]

/-- A root is found in front of a separator where the segment there is spelled like it. -/
theorem afterOpening?_root {segment rest behind : Text} (single : '/' ∉ root) (whole : '/' ∉ segment) :
    afterOpening? (root ++ ['/']) (segment ++ '/' :: rest) = some behind ↔
      SpelledLike root segment ∧ rest = behind := by
  -- Sign by sign: where one of the two ends, the other has to end as well.
  induction root generalizing segment with
  | nil =>
    cases segment with
    | nil => simp [afterOpening?, SpelledLike, Unicode.sameLetter_self]
    | cons c segment =>
      obtain ⟨other, -⟩ := List.ne_and_not_mem_of_not_mem_cons whole
      simp [afterOpening?_separator other, SpelledLike]
  | cons o root ih =>
    obtain ⟨other, single⟩ := List.ne_and_not_mem_of_not_mem_cons single
    cases segment with
    | nil =>
      -- The segment ends first, and no sign of the root is the same letter as a separator.
      have differs : ¬ sameLetter o '/' := fun same => other (Unicode.sameLetter_separator same).symm
      simp [afterOpening?, SpelledLike, differs]
    | cons c segment =>
      obtain ⟨-, whole⟩ := List.ne_and_not_mem_of_not_mem_cons whole
      rw [List.cons_append, List.cons_append, afterOpening?, SpelledLike, List.forall₂_cons]
      split
      next same => rw [ih single whole, and_iff_right same, SpelledLike]
      next differs => simp [differs]

/-- In a text without separators, no root is found that has one behind it. -/
theorem afterOpening?_root_of_end {segment : Text} (whole : '/' ∉ segment) :
    afterOpening? (root ++ ['/']) segment = none := by
  -- The separator at the end of the opening is found in the text.
  refine Option.eq_none_iff_forall_ne_some.mpr fun rest found => whole ?_
  obtain ⟨spelled, rfl, alike⟩ := spelled_of_afterOpening? found
  have reversed := List.rel_reverse alike
  rw [List.reverse_append] at reversed
  obtain ⟨sign, _, same, -, order⟩ := List.forall₂_cons_left_iff.mp reversed
  rw [Unicode.sameLetter_comm] at same
  rw [List.mem_append, ← List.mem_reverse, order, Unicode.sameLetter_separator same]
  exact .inl List.mem_cons_self

/-- Where a path goes on behind its second segment, its roots are that segment and those behind its first separator. -/
theorem isRootAt_cons {first second : Text} {i : Nat} : IsRootAt root (first :: second :: segments) (i + 1) ↔
    (i = 0 ∧ SpelledLike root second ∧ segments ≠ []) ∨ IsRootAt root (second :: segments) i := by
  -- Segments are counted from the front, so the one behind the first separator has number one.
  rw [isRootAt_iff, isRootAt_iff]
  cases i with
  | zero => cases segments <;> simp
  | succ i => simp

/-- A path of two segments or more has the roots behind its first separator, and else its second segment. -/
theorem afterLast?_segments {first second : Text}
    (whole : ∀ segment ∈ first :: second :: segments, '/' ∉ segment) :
    afterLast? ('/' :: root ++ ['/']) (Text.joinWith ['/'] (first :: second :: segments)) =
      (afterLast? ('/' :: root ++ ['/']) (Text.joinWith ['/'] (second :: segments))).or
        (afterOpening? (root ++ ['/']) (Text.joinWith ['/'] (second :: segments))) := by
  -- The first segment holds no opening, and the separator behind it opens the second one at most.
  have parts : Text.joinWith ['/'] (first :: second :: segments) =
      first ++ '/' :: Text.joinWith ['/'] (second :: segments) := by simp [Text.joinWith_cons]
  rw [parts, List.cons_append, afterLast?_segment (whole first List.mem_cons_self), afterLast?_cons, afterOpening?,
    if_pos (Unicode.sameLetter_self '/')]

/-- The text behind a root at the second segment, where the path goes on behind that. -/
theorem afterOpening?_joinWith (single : '/' ∉ root) {second : Text} (whole : '/' ∉ second) {behind : Text} :
    afterOpening? (root ++ ['/']) (Text.joinWith ['/'] (second :: segments)) = some behind ↔
      (SpelledLike root second ∧ segments ≠ []) ∧ Text.joinWith ['/'] segments = behind := by
  -- The root has a separator behind it, and behind the last segment of a path there is none.
  cases segments with
  | nil => simp [Text.joinWith_cons, afterOpening?_root_of_end whole]
  | cons third segments =>
    have parts : Text.joinWith ['/'] (second :: third :: segments) =
        second ++ '/' :: Text.joinWith ['/'] (third :: segments) := by simp [Text.joinWith_cons]
    rw [parts, afterOpening?_root single whole]
    simp

/-- No root is found in a path exactly where none of its segments is one. -/
theorem afterLast?_eq_none_iff (single : '/' ∉ root) (whole : ∀ segment ∈ segments, '/' ∉ segment) :
    afterLast? ('/' :: root ++ ['/']) (Text.joinWith ['/'] segments) = none ↔ ∀ i, ¬ IsRootAt root segments i := by
  -- Root by root: one at the second segment is found from the first on, others by the recursion.
  induction segments with
  | nil => exact ⟨fun _ i here => absurd here.behind (Nat.not_lt_zero _), fun _ => rfl⟩
  | cons first rest ih =>
    -- A path of one segment has no separator in front of a root.
    cases rest with
    | nil =>
      refine ⟨fun _ i here => ?_, fun _ => ?_⟩
      · have inFront := here.inFront
        have behind := here.behind
        rw [List.length_singleton] at behind
        omega
      · have alone := afterLast?_segment (whole first List.mem_cons_self) (root ++ ['/']) []
        rw [List.append_nil] at alone
        rw [Text.joinWith_cons, List.flatMap_nil, List.append_nil]
        exact alone
    | cons second segments =>
      have others := List.forall_mem_of_forall_mem_cons whole
      have next : afterOpening? (root ++ ['/']) (Text.joinWith ['/'] (second :: segments)) = none ↔
          ¬ (SpelledLike root second ∧ segments ≠ []) := by
        simp [Option.eq_none_iff_forall_ne_some, afterOpening?_joinWith single (others second List.mem_cons_self)]
      rw [afterLast?_segments whole, Option.or_eq_none_iff, ih others, next]
      refine ⟨fun ⟨farther, near⟩ i here => ?_, fun nowhere => ⟨fun i here => ?_, fun near => ?_⟩⟩
      · obtain ⟨i, rfl⟩ := Nat.exists_eq_add_of_le' here.inFront
        rcases isRootAt_cons.mp here with ⟨-, named⟩ | behind
        · exact near named
        · exact farther i behind
      · exact nowhere (i + 1) (isRootAt_cons.mpr (.inr here))
      · exact nowhere 1 (isRootAt_cons.mpr (.inl ⟨rfl, near⟩))

/-- The last root that is found in a path is its last segment that is one. -/
theorem afterLast?_eq_some (single : '/' ∉ root) (whole : ∀ segment ∈ segments, '/' ∉ segment) {i : Nat}
    (here : IsRootAt root segments i) (last : ∀ j, IsRootAt root segments j → j ≤ i) :
    afterLast? ('/' :: root ++ ['/']) (Text.joinWith ['/'] segments) =
      some (Text.joinWith ['/'] (segments.drop (i + 1))) := by
  -- The root is sought behind the first segment, where it has the position ahead of its own.
  induction segments generalizing i with
  | nil => exact absurd here.behind (Nat.not_lt_zero _)
  | cons first rest ih =>
    obtain ⟨i, rfl⟩ := Nat.exists_eq_add_of_le' here.inFront
    cases rest with
    | nil => exact absurd here.behind (by simp)
    | cons second segments =>
      have others := List.forall_mem_of_forall_mem_cons whole
      have lastBehind : ∀ j, IsRootAt root (second :: segments) j → j ≤ i := fun j behind =>
        Nat.le_of_succ_le_succ (last (j + 1) (isRootAt_cons.mpr (.inr behind)))
      rw [afterLast?_segments whole]
      -- If the last root is the second segment, nothing is found behind that, and else it is there.
      rcases isRootAt_cons.mp here with ⟨rfl, named⟩ | behind
      · have nowhere : afterLast? ('/' :: root ++ ['/']) (Text.joinWith ['/'] (second :: segments)) = none :=
          (afterLast?_eq_none_iff single others).mpr fun j behind =>
            absurd behind.inFront (Nat.not_le.mpr (Nat.lt_succ_of_le (lastBehind j behind)))
        rw [nowhere, Option.none_or, afterOpening?_joinWith single (others second List.mem_cons_self)]
        exact ⟨named, rfl⟩
      · rw [ih others behind lastBehind, Option.some_or]
        rfl

/-- What lies behind the last root of a path lies beneath no other one, also with a separator in front. -/
theorem not_isRootAt_behind {i j : Nat} (last : ∀ j, IsRootAt root segments j → j ≤ i) :
    ¬ IsRootAt root ([] :: segments.drop (i + 1)) j := by
  -- Behind the first, empty one, the positions are those of the segments behind the last root.
  rintro ⟨inFront, behind, named⟩
  obtain ⟨j, rfl⟩ := Nat.exists_eq_add_of_le' inFront
  rw [List.length_cons, List.length_drop] at behind
  rw [List.getElem?_cons_succ, List.getElem?_drop] at named
  have later := last (i + 1 + j) ⟨by omega, by omega, named⟩
  omega

end Segments

section Path

variable {root source : Text}

/-- What lies beneath the asset root has separators of one kind, also with one in front. -/
theorem replaceChar_of_relativePath? {relative : Text} (placed : relativePath? root source = some relative) :
    Text.replaceChar '\\' '/' ('/' :: relative) = '/' :: relative := by
  -- What lies behind the root is the end of a text in which no other separator is left.
  have clean : '\\' ∉ Text.replaceChar '\\' '/' source := Text.not_mem_replaceChar (by decide) source
  refine Text.replaceChar_eq_self fun member => ?_
  rcases List.mem_cons.mp member with first | inside
  · exact absurd first (by decide)
  · exact clean ((isSuffix_of_afterLast? placed).subset inside)

/-- Where a segment of a path is a root, one of them is the last. -/
theorem IsRootAt.exists_last {segments : List Text} {i : Nat} (here : IsRootAt root segments i) :
    ∃ last, IsRootAt root segments last ∧ ∀ j, IsRootAt root segments j → j ≤ last := by
  -- Roots have segments behind them, so that their places are bounded.
  classical
  have bounded : ∀ {j}, IsRootAt root segments j → j ≤ segments.length := fun there =>
    Nat.le_of_succ_le (Nat.le_of_lt there.behind)
  exact ⟨_, Nat.findGreatest_spec (bounded here) here, fun j there => Nat.le_findGreatest (bounded there) there⟩

/--
Where a path lies beneath the asset root.

A path lies beneath it where one of its segments, neither the first nor the last, is named like it.
Then it lies there behind the last such segment, and what is behind that lies beneath no other one.
The search for that segment ends after at most as many rounds as the path has signs, on every path and in one way.
-/
theorem relativePath?_segments (single : '/' ∉ root) (source : Text) :
    let segments := (Text.replaceChar '\\' '/' source).splitOn '/'
    ((relativePath? root source).isSome ↔ ∃ i, IsRootAt root segments i) ∧
      (∀ i, IsRootAt root segments i → (∀ j, IsRootAt root segments j → j ≤ i) →
        relativePath? root source = some (Text.joinWith ['/'] (segments.drop (i + 1)))) ∧
      (∀ relative, relativePath? root source = some relative → relativePath? root ('/' :: relative) = none) ∧
      ∃ rounds ≤ source.length, ∀ others result,
        Search.Ends ('/' :: root ++ ['/']) ⟨Text.replaceChar '\\' '/' source, none⟩ others result ↔
          others = rounds ∧ result = relativePath? root source := by
  intro segments
  -- In terms of segments, the search is for the last one that is named like the root.
  have whole : ∀ segment ∈ segments, '/' ∉ segment := fun segment => Text.not_mem_of_mem_splitOn
  have joined : Text.joinWith ['/'] segments = Text.replaceChar '\\' '/' source := List.intercalate_splitOn _
  have nowhere : relativePath? root source = none ↔ ∀ i, ¬ IsRootAt root segments i := by
    rw [relativePath?, ← joined, afterLast?_eq_none_iff single whole]
  have found : ∀ i, IsRootAt root segments i → (∀ j, IsRootAt root segments j → j ≤ i) →
      relativePath? root source = some (Text.joinWith ['/'] (segments.drop (i + 1))) := fun i here last => by
    rw [relativePath?, ← joined, afterLast?_eq_some single whole here last]
  have somewhere : (relativePath? root source).isSome ↔ ∃ i, IsRootAt root segments i := by
    rw [← not_iff_not, Option.not_isSome_iff_eq_none, nowhere, not_exists]
  refine ⟨somewhere, found, fun relative placed => ?_, ?_⟩
  · -- What was found lies behind the last root, so none of its segments is one.
    obtain ⟨i, here⟩ := somewhere.mp (placed ▸ rfl)
    obtain ⟨last, here, farthest⟩ := here.exists_last
    obtain rfl := Option.some.inj ((found last here farthest).symm.trans placed)
    have further : segments.drop (last + 1) ≠ [] :=
      List.ne_nil_of_length_pos (List.length_drop ▸ Nat.sub_pos_of_lt here.behind)
    have parts : '/' :: Text.joinWith ['/'] (segments.drop (last + 1)) =
        Text.joinWith ['/'] ([] :: segments.drop (last + 1)) :=
      (Text.joinWith_append ['/'] (List.cons_ne_nil [] []) further).symm
    have clean : ∀ segment ∈ [] :: segments.drop (last + 1), '/' ∉ segment :=
      List.forall_mem_cons.mpr ⟨List.not_mem_nil, fun segment behind => whole segment (List.mem_of_mem_drop behind)⟩
    rw [relativePath?, replaceChar_of_relativePath? placed, parts, afterLast?_eq_none_iff single clean]
    exact fun j => not_isRootAt_behind farthest
  · -- The search goes on in one way only, and each round takes a sign of the path.
    obtain ⟨rounds, few, ends⟩ :=
      Search.exists_ends (List.cons_ne_nil '/' (root ++ ['/'])) ⟨Text.replaceChar '\\' '/' source, none⟩
    rw [Option.or_none] at ends
    refine ⟨rounds, ?_, fun others result => ⟨fun also => also.unique ends, ?_⟩⟩
    · simpa [Text.replaceChar] using few
    · rintro ⟨rfl, rfl⟩
      exact ends

/-- A path with separators of both kinds, some of them doubled, has the last of two roots behind its first segment. -/
theorem relativePath?_segments_doubled :
    '/' ∉ ("a.b" : Text) ∧
      relativePath? ("a.b" : Text) ("A.B\\a.b//A.b/x\\" : Text) = some ("x/" : Text) ∧
        relativePath? ("a.b" : Text) ("/x/" : Text) = none := by
  have single : '/' ∉ ("a.b" : Text) := by decide
  -- The general law places the path by its segments, which are computed.
  obtain ⟨-, behind, apart, -⟩ := relativePath?_segments single "A.B\\a.b//A.b/x\\"
  have cut : (Text.replaceChar '\\' '/' ("A.B\\a.b//A.b/x\\" : Text)).splitOn '/' =
      (["A.B", "a.b", "", "A.b", "x", ""] : List String).map String.toList := by decide
  rw [cut] at behind
  have placed := behind 3 ⟨by decide, by decide, "A.b".toList, by decide, by unfold SpelledLike; decide⟩
    fun j there => by
      have within := there.behind
      obtain ⟨segment, found, spelled⟩ := there.named
      have length := spelled.length_eq
      -- The only segment between that root and the last segment is too short.
      by_contra later
      obtain rfl : j = 4 := by simp at within; omega
      cases found
      simp at length
  exact ⟨single, placed, apart _ placed⟩

end Path

end AssetCatalog.Asset
