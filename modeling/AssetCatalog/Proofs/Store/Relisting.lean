import AssetCatalog.Proofs.Store.Walk

/-! Trees whose directories list what they hold in another order: the same is found at each place. -/

namespace AssetCatalog.Store.Entry

/-- A tree is another one whose directories list what they hold in some other order. -/
inductive Relisted : Entry → Entry → Prop
  /-- A file stays as it is. -/
  | file (name : Text) (content : Bytes) : Relisted (.file name content) (.file name content)
  /-- A link stays as it is. -/
  | link (name target : Text) : Relisted (.link name target) (.link name target)
  /-- What a directory holds is listed anew, and stands in some order. -/
  | directory {name : Text} {entries others : List Entry} (relist : Entry → Entry)
      (deeper : ∀ child ∈ entries, Relisted child (relist child)) (order : (entries.map relist).Perm others) :
      Relisted (.directory name entries) (.directory name others)

variable {before after : Entry}

/-- Each tree is one in which nothing is in another order. -/
theorem Relisted.refl : ∀ entry : Entry, Relisted entry entry
  | .file name content => .file name content
  | .link name target => .link name target
  | .directory _ entries => .directory id (fun child _ => Relisted.refl child) (by simp)

/-- The order of what a directory holds does not matter for its name. -/
theorem Relisted.name_eq (again : Relisted before after) : after.name = before.name := by
  cases again <;> rfl

/-- The names in a directory stay the same, in some order. -/
theorem map_name_perm {entries others : List Entry} {relist : Entry → Entry}
    (deeper : ∀ child ∈ entries, Relisted child (relist child)) (order : (entries.map relist).Perm others) :
    (entries.map name).Perm (others.map name) := by
  -- What is in the directory keeps its name when it is listed in another order itself.
  have same : (entries.map relist).map name = entries.map name := by
    rw [List.map_map]
    exact List.map_congr_left fun child member => (deeper child member).name_eq
  exact same ▸ order.map name

/-- Names stay distinct in any order. -/
theorem Relisted.distinct (again : Relisted before after) (distinct : before.Distinct) : after.Distinct := by
  -- The order changes which name comes first, and not which names there are.
  induction again with
  | file | link => exact distinct
  | directory relist deeper order ih =>
    refine .directory ((map_name_perm deeper order).nodup distinct.names) fun child member => ?_
    obtain ⟨old, there, rfl⟩ := List.mem_map.mp (order.mem_iff.mpr member)
    exact ih old there (distinct.deeper there)

/-- In any order, something of the same kind stands at each place. -/
theorem Relisted.map_kind_at? (again : Relisted before after) (distinct : before.Distinct) (place : Place) :
    (after.at? place).map kind = (before.at? place).map kind := by
  -- Induction on the relisting; the first step of the place leads into one of the entries.
  have anew := again.distinct distinct
  induction again generalizing place with
  | file | link => rfl
  | @directory own entries others relist deeper order ih =>
    cases place with
    | nil => rfl
    | cons step place =>
      -- Under each name the directory holds the same entry as before, but for the order of what that holds.
      rw [at?, at?]
      cases found : (Entry.directory own entries).child? step with
      | some child =>
        have member : child ∈ entries := List.mem_of_find?_eq_some found
        have named : (relist child).name = step := (deeper child member).name_eq.trans (name_of_child? found)
        have listed : relist child ∈ others := order.mem_iff.mp (List.mem_map_of_mem member)
        have still : (Entry.directory own others).child? step = some (relist child) :=
          named ▸ anew.child?_eq_some_iff.mpr listed
        rw [still]
        exact ih child member (distinct.deeper member) place (anew.deeper listed)
      | none =>
        have still : (Entry.directory own others).child? step = none := by
          -- A name that none of the entries has is that of none of the relisted ones.
          rw [child?, List.find?_eq_none] at found ⊢
          intro other listed
          obtain ⟨child, member, rfl⟩ := List.mem_map.mp (order.mem_iff.mpr listed)
          rw [(deeper child member).name_eq]
          exact found child member
        rw [still]

/-- Where something of the same kind stands at each place, a tree has grown into another one. -/
theorem Grows.of_kinds (kinds : ∀ place, (after.at? place).map kind = (before.at? place).map kind)
    (distinct : before.Distinct → after.Distinct) : Grows before after := by
  -- What is there is there still, and nothing new takes any place.
  refine ⟨fun {place} entry found => by rw [kinds, found, Option.map_some], fun {place} free => ?_, distinct⟩
  have none := kinds place
  rw [free, Option.map_none, Option.map_eq_none_iff] at none
  rw [none, Option.any_none]

/-- In any order, a tree has grown into itself, and back. -/
theorem Relisted.grows (again : Relisted before after) (distinct : before.Distinct) :
    Grows before after ∧ Grows after before := by
  -- Each place shows the same kind of entry in both trees, and growing asks no more than that.
  have kinds := again.map_kind_at? distinct
  exact ⟨.of_kinds kinds again.distinct, .of_kinds (fun place => (kinds place).symm) fun _ => distinct⟩

end AssetCatalog.Store.Entry
