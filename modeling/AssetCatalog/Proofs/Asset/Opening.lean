import AssetCatalog.Asset.Record
import AssetCatalog.Proofs.Path.Output
import AssetCatalog.Proofs.Unicode.Case
import Mathlib.Data.List.Forall2

/-! The last asset root in a path behind a directory: it lies beneath that, across its end, or within. -/

namespace AssetCatalog.Asset

open List (Forall₂)
open Unicode (sameLetter)

/-- Whether one text is spelled like another, letter by letter without regard to case. -/
def SpelledLike (text spelled : Text) : Prop :=
  Forall₂ (fun o c => sameLetter o c = true) text spelled

/-- What is left of an opening behind a text that begins it and does not end it. -/
def unfinished? : Text → Text → Option Text
  | [], _ => none
  | o :: opening, [] => some (o :: opening)
  | o :: opening, c :: text => if sameLetter o c then unfinished? opening text else none

/-- What is left of an opening behind a text, once for each place at which it is begun and not ended. -/
def begun (opening : Text) : Text → List Text
  -- The place farthest to the right comes first.
  | [] => []
  | c :: text => begun opening text ++ (unfinished? opening (c :: text)).toList

/-- An opening is left unfinished where the text is spelled like its proper beginning. -/
theorem spelled_of_unfinished? {opening text left : Text} (found : unfinished? opening text = some left) :
    ∃ front, opening = front ++ left ∧ left ≠ [] ∧ SpelledLike front text := by
  -- Sign by sign, until the text ends: what is left of the opening there is left of it at all.
  induction opening generalizing text with
  | nil => cases found
  | cons o opening ih =>
    cases text with
    | nil =>
      obtain rfl := Option.some.inj found
      -- The text ends with all of the opening left.
      exact ⟨[], rfl, List.cons_ne_nil _ _, .nil⟩
    | cons c text =>
      rw [unfinished?] at found
      split at found
      next same =>
        obtain ⟨front, rfl, filled, spelled⟩ := ih found
        exact ⟨o :: front, rfl, filled, .cons same spelled⟩
      next => cases found

/-- An opening is found in front of a rest where the text in front of that is spelled like it. -/
theorem spelled_of_afterOpening? {opening text rest : Text} (found : afterOpening? opening text = some rest) :
    ∃ spelled, text = spelled ++ rest ∧ SpelledLike opening spelled := by
  -- Sign by sign, until the opening ends: the rest is what the text still has there.
  induction opening generalizing text with
  | nil => exact ⟨[], Option.some.inj found, .nil⟩
  | cons o opening ih =>
    cases text with
    | nil => cases found
    | cons c text =>
      rw [afterOpening?] at found
      split at found
      next same =>
        obtain ⟨spelled, rfl, alike⟩ := ih found
        exact ⟨c :: spelled, rfl, .cons same alike⟩
      next => cases found

/-- A text that leaves an opening unfinished is shorter than the opening. -/
theorem length_lt_of_unfinished? {opening text left : Text} (found : unfinished? opening text = some left) :
    text.length < opening.length := by
  -- What is left unfinished is the end of the opening, and is not empty.
  obtain ⟨front, rfl, filled, spelled⟩ := spelled_of_unfinished? found
  have positive := List.length_pos_iff.mpr filled
  have length := spelled.length_eq
  rw [List.length_append]
  omega

/-- A text with an opening at its front is as long as that at least. -/
theorem length_le_of_afterOpening? {opening text rest : Text} (found : afterOpening? opening text = some rest) :
    opening.length ≤ text.length := by
  -- What matched the opening has its length, and the rest only adds to it.
  obtain ⟨spelled, rfl, alike⟩ := spelled_of_afterOpening? found
  rw [alike.length_eq, List.length_append]
  exact Nat.le_add_right _ _

/-- The last opening in a text starts behind its first sign, or else at the front. -/
theorem afterLast?_cons (opening : Text) (c : Char) (text : Text) :
    afterLast? opening (c :: text) = (afterLast? opening text).or (afterOpening? opening (c :: text)) := by
  -- A place behind the first sign wins over one at the front.
  rw [afterLast?]
  cases afterLast? opening text <;> rfl

/-- The last opening of a text is at the front of an end of it. -/
theorem exists_suffix_of_afterLast? {opening text rest : Text} (found : afterLast? opening text = some rest) :
    ∃ behind, behind <:+ text ∧ afterOpening? opening behind = some rest := by
  -- The recursion goes to the end first, so it is there or else here that the opening is found.
  induction text with
  | nil => exact ⟨[], List.suffix_rfl, found⟩
  | cons c text ih =>
    rw [afterLast?_cons, Option.or_eq_some_iff] at found
    rcases found with farther | ⟨-, here⟩
    · obtain ⟨behind, ends, opened⟩ := ih farther
      exact ⟨behind, ends.trans (List.suffix_cons c text), opened⟩
    · exact ⟨c :: text, List.suffix_rfl, here⟩

/-- A text in which an opening is found is as long as that at least. -/
theorem length_le_of_afterLast? {opening text rest : Text} (found : afterLast? opening text = some rest) :
    opening.length ≤ text.length := by
  -- The opening was found at the front of some end of the text.
  obtain ⟨behind, ends, opened⟩ := exists_suffix_of_afterLast? found
  exact (length_le_of_afterOpening? opened).trans ends.length_le

/-- The text behind the last place where an opening starts ends the text. -/
theorem isSuffix_of_afterLast? {opening text rest : Text} (found : afterLast? opening text = some rest) :
    rest <:+ text := by
  -- An end of an end of the text is one.
  obtain ⟨behind, ends, opened⟩ := exists_suffix_of_afterLast? found
  obtain ⟨spelled, rfl, -⟩ := spelled_of_afterOpening? opened
  exact (List.suffix_append spelled rest).trans ends

/-- An opening at the front of two texts together ends in the first, or is begun in it and ended in the second. -/
theorem afterOpening?_append (opening first second : Text) :
    afterOpening? opening (first ++ second) =
      ((unfinished? opening first).bind (afterOpening? · second)).or
        ((afterOpening? opening first).map (· ++ second)) := by
  -- Sign by sign, both sides stop at the first one that differs.
  induction opening generalizing first with
  | nil => simp [afterOpening?, unfinished?]
  | cons o opening ih =>
    cases first with
    | nil => simp [afterOpening?, unfinished?]
    | cons c first =>
      rw [List.cons_append, afterOpening?, afterOpening?, unfinished?]
      split
      · exact ih first
      · rfl

/--
Where the last opening in two texts together starts.

It starts in the second text if one does, or else at the last place of the first text where it is begun there and
ended in the second.
Otherwise it is the last one of the first text.
-/
theorem afterLast?_append {opening : Text} (filled : opening ≠ []) (first second : Text) :
    afterLast? opening (first ++ second) =
      ((afterLast? opening second).or ((begun opening first).findSome? (afterOpening? · second))).or
        ((afterLast? opening first).map (· ++ second)) := by
  -- From the end of the first text on, each sign is one more place for an opening to start at.
  induction first with
  | nil =>
    obtain ⟨o, opening, rfl⟩ := List.exists_cons_of_ne_nil filled
    simp [afterLast?, afterOpening?, begun]
  | cons c first ih =>
    rw [List.cons_append, afterLast?_cons, ih, afterLast?_cons opening c first, ← List.cons_append,
      afterOpening?_append, begun, List.findSome?_append]
    cases unended : unfinished? opening (c :: first) with
    | none => cases afterLast? opening first <;> simp [Option.or_assoc]
    | some left =>
      -- An opening that is left unfinished from here on is too long to be found farther right or here.
      have short := length_lt_of_unfinished? unended
      have farther : afterLast? opening first = none := by
        refine Option.eq_none_iff_forall_ne_some.mpr fun rest found => ?_
        have long := length_le_of_afterLast? found
        rw [List.length_cons] at short
        omega
      have here : afterOpening? opening (c :: first) = none := by
        refine Option.eq_none_iff_forall_ne_some.mpr fun rest found => ?_
        have long := length_le_of_afterOpening? found
        omega
      simp [farther, here, Option.or_assoc]

/-- An asset root of one segment is not left unfinished in front of the separator that a text ends in. -/
theorem unfinished?_append_separator {root : Text} (single : '/' ∉ root) (c : Char) (text : Text) :
    unfinished? ('/' :: root ++ ['/']) (c :: (text ++ ['/'])) = none := by
  refine Option.eq_none_iff_forall_ne_some.mpr fun left found => ?_
  obtain ⟨start, whole, filled, spelled⟩ := spelled_of_unfinished? found
  obtain ⟨o, start, -, rest, rfl⟩ := List.forall₂_cons_right_iff.mp spelled
  -- The separator at the end would stand within the root, in front of what is left.
  have separated : '/' ∈ start := by
    have reversed := List.rel_reverse rest
    rw [List.reverse_append] at reversed
    obtain ⟨sign, _, same, -, order⟩ := List.forall₂_cons_right_iff.mp reversed
    rw [← List.mem_reverse, order, Unicode.sameLetter_separator same]
    exact List.mem_cons_self
  -- The root ends in front of its own separator, which is all that may be left.
  obtain ⟨more, last, rfl⟩ := (left.eq_nil_or_concat).resolve_left filled
  rw [List.cons_append, List.cons_append, List.concat_eq_append, ← List.append_assoc] at whole
  obtain ⟨inside, -⟩ := List.append_inj' (List.cons.inj whole).2 rfl
  exact single (inside ▸ List.mem_append_left more separated)

/-- In a text that ends in a separator, an asset root of one segment is begun at that and nowhere else. -/
theorem begun_append_separator {root : Text} (single : '/' ∉ root) (front : Text) :
    begun ('/' :: root ++ ['/']) (front ++ ['/']) = [root ++ ['/']] := by
  -- Each sign of the front begins nothing, as a root of one segment needs the separator at the end.
  induction front with
  | nil =>
    obtain ⟨c, text, filled⟩ : ∃ c text, root ++ ['/'] = c :: text := List.exists_cons_of_ne_nil (by simp)
    simp [begun, unfinished?, filled, Unicode.sameLetter_self]
  | cons c front ih =>
    show begun _ (front ++ ['/']) ++ (unfinished? _ (c :: (front ++ ['/']))).toList = _
    rw [ih, unfinished?_append_separator single]
    rfl

section Directory

variable {root first second path relative directory : Text}

/--
Whether two directories stand alike to the asset root.

What counts is the whole of their paths, with a separator behind it.
-/
structure StandAlike (root first second : Text) : Prop where
  /-- Behind the last asset root in the paths is the same, or none of the two has one. -/
  behind : relativePath? root (Path.front first) = relativePath? root (Path.front second)
  /-- A root of several segments is begun in both alike, to be ended beneath them. -/
  across : '/' ∈ root → begun ('/' :: root ++ ['/']) (Text.replaceChar '\\' '/' (Path.front first)) =
    begun ('/' :: root ++ ['/']) (Text.replaceChar '\\' '/' (Path.front second))

/-- With separators of one kind, what a directory puts in front of a path ends in one. -/
theorem exists_replaceChar_front_eq (filled : directory ≠ []) :
    ∃ before, Text.replaceChar '\\' '/' (Path.front directory) = before ++ ['/'] := by
  -- The front ends in a separator, which the replacement keeps.
  obtain ⟨before, ends⟩ := Path.exists_front_eq filled
  exact ⟨Text.replaceChar '\\' '/' before, by rw [ends, Text.replaceChar, List.map_append]; rfl⟩

/-- A path lies at one place beneath the asset root behind directories that stand alike to it. -/
theorem StandAlike.relativePath?_eq (alike : StandAlike root first second) (filled : first ≠ [])
    (alsoFilled : second ≠ []) (path : Text) :
    relativePath? root (Path.front first ++ path) = relativePath? root (Path.front second ++ path) := by
  obtain ⟨behind, several⟩ := alike
  -- A root of one segment is begun in the same way at the end of any directory.
  have across : begun ('/' :: root ++ ['/']) (Text.replaceChar '\\' '/' (Path.front first)) =
      begun ('/' :: root ++ ['/']) (Text.replaceChar '\\' '/' (Path.front second)) := by
    by_cases single : '/' ∈ root
    · exact several single
    · obtain ⟨front, same⟩ := exists_replaceChar_front_eq filled
      obtain ⟨other, alsoSame⟩ := exists_replaceChar_front_eq alsoFilled
      rw [same, alsoSame, begun_append_separator single, begun_append_separator single]
  -- Separators are made alike sign by sign, and so in both parts of the path.
  have parts : ∀ directory, Text.replaceChar '\\' '/' (Path.front directory ++ path) =
      Text.replaceChar '\\' '/' (Path.front directory) ++ Text.replaceChar '\\' '/' path :=
    fun _ => List.map_append
  rw [relativePath?, relativePath?] at behind ⊢
  rw [parts, parts, afterLast?_append (by simp), afterLast?_append (by simp), across, behind]

/-- Behind the root of all paths or behind any directory, an asset root of the path itself is the last one. -/
theorem relativePath?_front_of_root (placed : relativePath? root ('/' :: path) = some relative)
    (filled : directory ≠ []) : relativePath? root (Path.front directory ++ path) = some relative := by
  -- The separator that the directory ends in is that of the path.
  obtain ⟨front, same⟩ := exists_replaceChar_front_eq filled
  have whole : Text.replaceChar '\\' '/' (Path.front directory ++ path) =
      front ++ Text.replaceChar '\\' '/' ('/' :: path) := by
    rw [Text.replaceChar, List.map_append, ← Text.replaceChar, same, List.append_assoc]
    rfl
  rw [relativePath?] at placed
  rw [relativePath?, whole, afterLast?_append (by simp), placed]
  rfl

end Directory

end AssetCatalog.Asset
