import AssetCatalog.Proofs.Text.Sorting
import Mathlib.Data.List.Forall2

/-! Lists whose entries have counterparts in another list, which come in the same order and may have others between. -/

namespace AssetCatalog.Text

open List (SublistForall₂)

variable {α β γ δ : Type} {related : α → β → Prop} {alike : γ → δ → Prop} {first : List α} {second : List β}

/-- Entries have counterparts where each is related to the entry at its position. -/
theorem counterparts_of_getElem? (room : first.length ≤ second.length)
    (each : ∀ (position : Nat) entry other, first[position]? = some entry → second[position]? = some other →
      related entry other) : SublistForall₂ related first second := by
  -- The entries at the front are a pair, and those behind them have the positions before theirs.
  induction first generalizing second with
  | nil => exact .nil
  | cons entry rest ih =>
    cases second with
    | nil => simp at room
    | cons other others =>
      refine .cons (each 0 entry other rfl rfl) (ih (by simpa using room) ?_)
      exact fun position => each (position + 1)

/-- Entries and their counterparts are members of the two lists. -/
theorem counterparts_mem (paired : SublistForall₂ related first second) :
    SublistForall₂ (fun entry other => related entry other ∧ entry ∈ first ∧ other ∈ second) first second := by
  -- The counterparts are chosen from the second list, and each pair has a member of either.
  obtain ⟨chosen, pairs, part⟩ := List.sublistForall₂_iff.mp paired
  obtain ⟨lengths, each⟩ := List.forall₂_iff_zip.mp pairs
  refine List.sublistForall₂_iff.mpr ⟨chosen, List.forall₂_iff_zip.mpr ⟨lengths, fun member => ?_⟩, part⟩
  obtain ⟨inFirst, inChosen⟩ := List.of_mem_zip member
  exact ⟨each member, inFirst, part.subset inChosen⟩

/-- What has counterparts still has them behind further entries. -/
theorem counterparts_append_left (front : List β) (paired : SublistForall₂ related first second) :
    SublistForall₂ related first (front ++ second) := by
  -- Each entry in front may be passed over, by the recursion over them.
  induction front with
  | nil => exact paired
  | cons other rest ih => exact .cons_right ih

/-- Lists behind each other have the counterparts of both. -/
theorem counterparts_append {rest : List α} {others : List β} (paired : SublistForall₂ related first second)
    (further : SublistForall₂ related rest others) :
    SublistForall₂ related (first ++ rest) (second ++ others) := by
  -- Induction on the pairs of the first lists, with entries left out on the right.
  induction paired with
  | nil => exact counterparts_append_left _ further
  | cons here _ ih => exact .cons here ih
  | cons_right _ ih => exact .cons_right ih

/-- Parts that have counterparts for each entry have them for all entries together. -/
theorem counterparts_flatMap {parts : α → List γ} {others : β → List δ}
    (paired : SublistForall₂ related first second)
    (each : ∀ entry other, related entry other → SublistForall₂ alike (parts entry) (others other)) :
    SublistForall₂ alike (first.flatMap parts) (second.flatMap others) := by
  -- Induction on the pairs, where an entry left out on the right leaves its part out.
  induction paired with
  | nil => exact .nil
  | cons here _ ih => exact counterparts_append (each _ _ here) ih
  | cons_right _ ih => exact counterparts_append_left _ ih

/-- What is kept of a list has its counterparts in what is kept of the other one, where both are kept alike. -/
theorem counterparts_filter {kept : α → Bool} {alsoKept : β → Bool}
    (paired : SublistForall₂ related first second)
    (same : ∀ entry other, related entry other → kept entry = alsoKept other) :
    SublistForall₂ related (first.filter kept) (second.filter alsoKept) := by
  -- @cons_right| An entry without a counterpart may be kept or not.
  -- An entry and its counterpart are both kept or both left out, and other entries do not matter.
  induction paired with
  | nil => exact .nil
  | @cons entry other _ _ here _ ih =>
    have verdict := same entry other here
    cases chosen : alsoKept other with
    | true => simpa [verdict, chosen] using .cons here ih
    | false => simpa [verdict, chosen] using ih
  | @cons_right other _ _ _ ih =>
    rw [List.filter_cons]
    split
    · exact .cons_right ih
    · exact ih

/-- Texts that are parts of their counterparts make a part of these together. -/
theorem flatMap_sublist {parts : α → List γ} {others : β → List γ} (paired : SublistForall₂ related first second)
    (each : ∀ entry other, related entry other → (parts entry).Sublist (others other)) :
    (first.flatMap parts).Sublist (second.flatMap others) := by
  -- Induction on the pairs, where an entry left out on the right adds to the greater list only.
  induction paired with
  | nil => exact List.nil_sublist _
  | cons here _ ih => exact (each _ _ here).append ih
  | cons_right _ ih => exact ih.trans (List.sublist_append_right _ _)

/-- The entries stay in their order around one that is put in. -/
theorem sublist_insertBy (key : α → Text) (entry : α) (entries : List α) :
    entries.Sublist (insertBy key entry entries) := by
  -- The entry is put in front of one of them, or behind all of them.
  induction entries with
  | nil => exact List.nil_sublist _
  | cons other rest ih =>
    rw [insertBy]
    split
    · exact List.sublist_cons_self _ _
    · exact ih.cons_cons other

section Sorted

variable {key : α → Text} {otherKey : β → Text}

/-- No key is greater than all keys of the counterparts that come behind an entry in order. -/
theorem le_key_of_counterparts {other : β} {others : List β} {entry : α}
    (sorted : (other :: others).Pairwise fun one next => otherKey one ≤ otherKey next)
    (same : ∀ entry other, related entry other → key entry = otherKey other)
    (paired : SublistForall₂ related first others) (member : entry ∈ first) : otherKey other ≤ key entry := by
  obtain ⟨chosen, pairs, part⟩ := List.sublistForall₂_iff.mp paired
  -- The counterpart of the entry is one of those behind the other.
  obtain ⟨position, within, rfl⟩ := List.mem_iff_getElem.mp member
  have bound : position < chosen.length := pairs.length_eq ▸ within
  have pair : related first[position] chosen[position] := pairs.get within bound
  rw [same _ _ pair]
  exact (List.pairwise_cons.mp sorted).1 _ (part.subset (List.getElem_mem bound))

/-- An entry that is put in has its counterpart put in at a place that fits the others. -/
theorem counterparts_insertBy {entry : α} {other : β}
    (same : ∀ entry other, related entry other → key entry = otherKey other) (here : related entry other)
    (sorted : second.Pairwise fun one next => otherKey one ≤ otherKey next)
    (paired : SublistForall₂ related first second) :
    SublistForall₂ related (insertBy key entry first) (insertBy otherKey other second) := by
  induction paired with
  | @nil others =>
    -- The counterpart stands somewhere among the others.
    have member : other ∈ insertBy otherKey other others := (insertBy_perm otherKey other others).symm.subset (by simp)
    exact List.sublistForall₂_iff.mpr ⟨[other], .cons here .nil, List.singleton_sublist.mpr member⟩
  | @cons ahead counterpart rest others pair tail ih =>
    -- Both entries stop in front of the pair or pass it, since the pair has one key.
    rw [insertBy, insertBy, same _ _ here, same _ _ pair]
    split
    · exact .cons here (.cons pair tail)
    · exact .cons pair (ih (List.pairwise_cons.mp sorted).2)
  | @cons_right ahead rest others tail ih =>
    rw [insertBy]
    split
    · rename_i before
      -- No entry comes before the one that is put in, because none of the counterparts does.
      have least : insertBy key entry rest = entry :: rest := by
        cases rest with
        | nil => rfl
        | cons next behind =>
          have further := le_key_of_counterparts sorted same tail List.mem_cons_self
          have start : key entry ≤ key next := same _ _ here ▸ le_trans (le_iff.mp before) further
          rw [insertBy, if_pos (le_iff.mpr start)]
      rw [least]
      exact .cons here (.cons_right tail)
    · exact .cons_right (ih (List.pairwise_cons.mp sorted).2)

/-- Sorted entries have their counterparts in the same order, where these have the same keys. -/
theorem counterparts_sortBy (same : ∀ entry other, related entry other → key entry = otherKey other)
    (paired : SublistForall₂ related first second) :
    SublistForall₂ related (sortBy key first) (sortBy otherKey second) := by
  -- The entries are put in from the last to the first, and those in front of a counterpart leave it in its place.
  induction paired with
  | nil => exact .nil
  | cons here _ ih => exact counterparts_insertBy same here (sortBy_pairwise otherKey _) ih
  | @cons_right other rest others _ ih =>
    obtain ⟨chosen, pairs, part⟩ := List.sublistForall₂_iff.mp ih
    exact List.sublistForall₂_iff.mpr ⟨chosen, pairs, part.trans (sublist_insertBy otherKey other _)⟩

end Sorted

end AssetCatalog.Text
