import AssetCatalog.Proofs.Asset.Relocation
import AssetCatalog.Proofs.Module.Order

/-! Files that lie elsewhere, at the same paths beneath the asset root: their module is the same. -/

namespace AssetCatalog

open List (Forall₂)

namespace Layout

open Asset (Node)

/-- Twins have the same lines. -/
theorem groupLines_eq_of_twins (base : Text) {paired : Text → Text → Prop} {node twin : Node}
    (twins : node.Twins paired twin) : ∀ depth, groupLines base depth node = groupLines base depth twin := by
  -- The children of twins have the same blocks, by the hypothesis if they are groups.
  induction twins with
  | @intro node twin key name directory relative sources lengths below ih =>
    intro depth
    have blocks : node.children.map (block base (depth + 1)) = twin.children.map (block base (depth + 1)) := by
      rw [← List.forall₂_eq_eq_eq, List.forall₂_map_left_iff, List.forall₂_map_right_iff]
      refine List.forall₂_iff_get.mpr ⟨lengths, fun position within alsoWithin => ?_⟩
      obtain ⟨-, sameName, sameDirectory, sameRelative, -, -, -⟩ := below position within alsoWithin
      rw [block, block, Node.isLeaf, Node.isLeaf, sameName, sameDirectory, sameRelative,
        ih position within alsoWithin (depth + 1)]
    rw [groupLines_eq_blocks, groupLines_eq_blocks, name, blocks]

end Layout

open Asset (Record build collisions PairedClaims Corresponds SourcesAt)

/-- The duplicate keys of a run are the collisions of the tree of its records. -/
theorem duplicates_generate_eq (records : List Record) (target : Target) :
    (generate records target).duplicates = collisions (build target.className target.rootDirectory records) := by
  cases verdict : (generate records target).ok with
  | false => exact duplicates_generate records target verdict
  | true =>
    -- A run that is not blocked has no duplicates, and a tree for which it is not has no collisions.
    rw [(ok_generate records target).mp verdict]
    rw [Generation.ok] at verdict
    rw [Generation.duplicates]
    split <;> simp_all

/--
A run depends on where files lie beneath the asset root, and not on where that is.

Records that are level one by one have the same verdict, text, file name and number of assets.
They have the same duplicate keys in the same order, with entries that correspond one by one.
-/
theorem generate_relocated (records others : List Record) (target : Target)
    (same : Forall₂ (Record.Level target.rootDirectory) records others) :
    (generate records target).ok = (generate others target).ok ∧
      (generate records target).source = (generate others target).source ∧
      (generate records target).sourceName = (generate others target).sourceName ∧
      (generate records target).assetCount = (generate others target).assetCount ∧
      Forall₂ (PairedClaims (Corresponds (SourcesAt records others)
          (build target.className target.rootDirectory records) (build target.className target.rootDirectory others)))
        (generate records target).duplicates (generate others target).duplicates := by
  -- The trees are twins, which differ in nothing but where their sources lie.
  have twins := Asset.twins_build target.className same
  have collided := twins.collisions
  have free := Asset.isEmpty_eq_of_forall₂ collided
  have childless := Asset.isEmpty_eq_of_forall₂ twins.children
  have text : Layout.moduleText target.pathBase (build target.className target.rootDirectory records) =
      Layout.moduleText target.pathBase (build target.className target.rootDirectory others) := by
    rw [Layout.moduleText, Layout.moduleText, Layout.groupLines_eq_of_twins target.pathBase twins]
  -- What is told of a generation depends on whether there are collisions and files, and these agree.
  have source : (generate records target).source = (generate others target).source := by
    rw [source_generate, source_generate, childless, free, text]
  refine ⟨?_, source, ?_, Asset.length_beneath_eq same, ?_⟩
  · rw [Bool.eq_iff_iff, ok_generate, ok_generate, ← List.isEmpty_iff, free, List.isEmpty_iff]
  · rw [sourceName_generate, sourceName_generate, source]
  · rw [duplicates_generate_eq, duplicates_generate_eq]
    exact collided

/-- A file and a directory of one key collide wherever they lie, and only the source of the file differs. -/
theorem generate_relocated_directory :
    let records : List Record := [⟨"/w/A".toList, true⟩, ⟨"/w/a/x".toList, true⟩]
    let others : List Record := [⟨"/p/w/A".toList, true⟩, ⟨"/q/w/a/x".toList, true⟩]
    let target : Target := ⟨['C'], ['/'], ['w']⟩
    (generate records target).duplicates = [(['A'], ["a/".toList, "/w/A".toList])] ∧
      (generate others target).duplicates = [(['A'], ["a/".toList, "/p/w/A".toList])] ∧
      Forall₂ (PairedClaims (Corresponds (SourcesAt records others) (build ['C'] ['w'] records)
        (build ['C'] ['w'] others))) (generate records target).duplicates (generate others target).duplicates := by
  -- The records lie at the same places beneath their asset roots, two by two.
  intro records others target
  have same : Forall₂ (Record.Level ['w']) records others :=
    .cons ⟨by decide +kernel, rfl⟩ (.cons ⟨by decide +kernel, rfl⟩ .nil)
  exact ⟨by decide +kernel, by decide +kernel, (generate_relocated records others target same).2.2.2.2⟩

end AssetCatalog
