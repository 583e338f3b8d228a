import AssetCatalog.Text
import Mathlib.Data.Char
import Mathlib.Data.List.Lex
import Mathlib.Data.List.Nodup

/-! Sorting by a key keeps all entries, looks at nothing but their keys, and puts these in order. -/

namespace AssetCatalog.Text

variable {α β : Type}

/-- An entry that is put in comes to the entries that are there. -/
theorem insertBy_perm (key : α → Text) (entry : α) (entries : List α) :
    (insertBy key entry entries).Perm (entry :: entries) := by
  -- The entry moves back past the entries with smaller keys.
  induction entries with
  | nil => exact .rfl
  | cons other rest ih =>
    rw [insertBy]
    split
    · exact .rfl
    · exact (ih.cons other).trans (.swap entry other rest)

/-- Sorted entries are the entries in another order. -/
theorem sortBy_perm (key : α → Text) (entries : List α) : (sortBy key entries).Perm entries := by
  -- The entries are put in one after the other, from the last to the first.
  induction entries with
  | nil => exact .rfl
  | cons entry rest ih => exact (insertBy_perm key entry _).trans (ih.cons entry)

/-- Where an image is put in depends on the keys of the images alone. -/
theorem insertBy_map (key : β → Text) (image : α → β) (entry : α) (entries : List α) :
    insertBy key (image entry) (entries.map image) = (insertBy (key ∘ image) entry entries).map image := by
  -- Both insertions compare the same keys, and so stop at the same place.
  induction entries with
  | nil => rfl
  | cons other rest ih =>
    rw [List.map_cons, insertBy, insertBy, ih, Function.comp_apply, Function.comp_apply]
    split <;> rfl

/-- Images are sorted as what they are images of, by the keys of the images. -/
theorem sortBy_map (key : β → Text) (image : α → β) (entries : List α) :
    sortBy key (entries.map image) = (sortBy (key ∘ image) entries).map image := by
  -- Sorting puts in one entry after the other, each by its own key.
  induction entries with
  | nil => rfl
  | cons entry rest ih =>
    have tail : sortBy key ((entry :: rest).map image) =
        insertBy key (image entry) (sortBy key (rest.map image)) := rfl
    rw [tail, ih, insertBy_map]
    rfl

/-- Texts are in dictionary order exactly if they are so as lists of characters. -/
theorem le_iff {first second : Text} : le first second = true ↔ first ≤ second := by
  -- Characters are compared by their code points on both sides.
  have smaller : ∀ a b : Char, a.toNat < b.toNat ↔ a < b := fun a b => by
    rw [Char.lt_def, UInt32.lt_iff_toNat_lt]
    rfl
  rw [le_iff_lt_or_eq]
  induction first generalizing second with
  | nil => cases second <;> simp [le]
  | cons a as ih =>
    cases second with
    | nil => simp [le]
    | cons b bs =>
      -- The first characters decide, and the rest does where they are the same.
      have below : a :: as < b :: bs ↔ a < b ∨ a = b ∧ as < bs := List.cons_lt_cons_iff
      rw [below, List.cons.injEq, or_assoc, ← and_or_left]
      simp [le, smaller, ih]

/-- Entries in order stay so when one more is put in. -/
theorem insertBy_pairwise (key : α → Text) (entry : α) {entries : List α}
    (sorted : entries.Pairwise fun first second => key first ≤ key second) :
    (insertBy key entry entries).Pairwise fun first second => key first ≤ key second := by
  -- The entry stops before the first one that is not smaller, so all later ones are not smaller either.
  induction entries with
  | nil => simp [insertBy]
  | cons other rest ih =>
    obtain ⟨least, further⟩ := List.pairwise_cons.mp sorted
    rw [insertBy]
    split
    · rename_i before
      have start : key entry ≤ key other := le_iff.mp before
      refine List.pairwise_cons.mpr ⟨fun later member => ?_, sorted⟩
      rcases List.mem_cons.mp member with rfl | behind
      · exact start
      · exact le_trans start (least later behind)
    · rename_i behind
      have start : key other ≤ key entry :=
        (le_total (key other) (key entry)).resolve_right fun before => behind (le_iff.mpr before)
      refine List.pairwise_cons.mpr ⟨fun later member => ?_, ih further⟩
      -- What comes later now is the entry or was there before.
      rcases List.mem_cons.mp ((insertBy_perm key entry rest).subset member) with rfl | inside
      · exact start
      · exact least later inside

/-- Sorted entries are in order. -/
theorem sortBy_pairwise (key : α → Text) (entries : List α) :
    (sortBy key entries).Pairwise fun first second => key first ≤ key second := by
  -- Each entry is put at its place among those sorted before.
  induction entries with
  | nil => exact .nil
  | cons entry rest ih => exact insertBy_pairwise key entry ih

/-- Sorted entries with distinct keys are in strict order. -/
theorem sortBy_pairwise_lt {key : α → Text} {entries : List α} (distinct : (entries.map key).Nodup) :
    (sortBy key entries).Pairwise fun first second => key first < key second := by
  -- Sorting keeps the keys distinct, and keys in order that differ ascend.
  have differ : (sortBy key entries).Pairwise fun first second => key first ≠ key second :=
    List.pairwise_map.mp (((sortBy_perm key entries).map key).nodup_iff.mpr distinct)
  exact (sortBy_pairwise key entries).imp₂ (fun _ _ => lt_of_le_of_ne) differ

/-- Entries with distinct keys are sorted into one list, in whatever order they come. -/
theorem sortBy_eq_of_perm {key : α → Text} {first second : List α} (same : first.Perm second)
    (distinct : (first.map key).Nodup) : sortBy key first = sortBy key second := by
  have sorted : (sortBy key first).Perm (sortBy key second) :=
    (sortBy_perm key first).trans (same.trans (sortBy_perm key second).symm)
  refine sorted.eq_of_pairwise ?_ (sortBy_pairwise key first) (sortBy_pairwise key second)
  -- Entries that come before each other have the same key, and the key has one entry.
  intro a b inFirst inSecond before after
  exact List.inj_on_of_nodup_map distinct ((sortBy_perm key first).subset inFirst)
    (same.symm.subset ((sortBy_perm key second).subset inSecond)) (le_antisymm before after)

end AssetCatalog.Text
