import AssetCatalog.Proofs.Module.ReadBack
import AssetCatalog.Proofs.Name.Normal

/-! When the names within one class of a generated module differ as normal forms. -/

namespace AssetCatalog

open Asset (Node Place Record Route build routes)
open Unicode (nfkc)

/-- Whether characters of a normal form were left out when the node of a place was named. -/
def Asset.Place.drops (files : List Route) (place : Place) : Bool :=
  -- The node is named by the first route to reach it.
  ((files.find? (Route.Reaches (place.way Node.key) ·)).bind (·.steps[place.above.length]?)).any
    fun step => Name.drops step.1 step.2

/-- A node that was named without leaving out characters has a normal form for its name. -/
theorem nfkc_name_of_mem_places {className root : Text} {records : List Record} {place : Place}
    (member : place ∈ (build className root records).places)
    (kept : place.drops (routes root records) = false) : nfkc place.node.name = place.node.name := by
  -- The name is that of a step of the route that came first, and the step has left out nothing.
  obtain ⟨first, reached, named, _⟩ :=
    Asset.portrait_eq_some (Asset.portrait_of_mem_places member) (place.way_ne_nil Node.key)
  have depth : (place.way Node.key).length - 1 = place.above.length := by simp [Place.way]
  rw [depth, Route.names, List.getElem?_map, Option.map_eq_some_iff] at named
  obtain ⟨step, taken, name⟩ := named
  have whole : Name.drops step.1 step.2 = false := by simpa [Place.drops, reached, taken] using kept
  rw [← name]
  exact Name.nfkc_ofText whole

/--
The names within one class of a generated module differ as normal forms unless characters were left out.

Names that were made without leaving out characters of a normal form differ in any case.
So the siblings to compare are those of which one was named with characters left out.
-/
theorem siblingsDiffer_nfkc_iff (records : List Record) (target : Target)
    (written : (generate records target).source ≠ []) :
    let tree := build target.className target.rootDirectory records
    let files := routes target.rootDirectory records
    (generate records target).source = Layout.moduleText target.pathBase tree ∧
      (Node.SiblingsDiffer (fun node => nfkc node.name) tree ↔
        ∀ first ∈ tree.places, ∀ second ∈ tree.places,
          first.above.map Node.key = second.above.map Node.key → first.node.key ≠ second.node.key →
            (first.drops files || second.drops files) = true →
              nfkc first.node.name ≠ nfkc second.node.name) := by
  intro tree files
  obtain ⟨free, text⟩ := source_of_ne_nil written
  have keys := Asset.siblingsDiffer_key_build target.className target.rootDirectory records
  have names := (Asset.plain_of_collisions_eq_nil free).2
  refine ⟨text, (Node.siblingsDiffer_iff_places tree [] keys).trans ⟨?_, ?_⟩⟩
  · -- Siblings that differ in any case differ in the cases to compare.
    exact fun apart first member second alsoMember level different _ =>
      apart first member second alsoMember level different
  · intro apart first member second alsoMember level different
    cases left : first.drops files || second.drops files with
    | true => exact apart first member second alsoMember level different left
    | false =>
      -- Both names are normal forms, and as names they differ.
      obtain ⟨kept, alsoKept⟩ := Bool.or_eq_false_iff.mp left
      rw [nfkc_name_of_mem_places member kept, nfkc_name_of_mem_places alsoMember alsoKept]
      exact (Node.siblingsDiffer_iff_places tree [] keys).mp names first member second alsoMember
        level different

/-- Letters that are kept as they are leave the names of two files different normal forms. -/
theorem siblingsDiffer_nfkc_letters :
    let records : List Record := [⟨['/', 'w', '/', 'A'], true⟩, ⟨['/', 'w', '/', 'b'], true⟩]
    (generate records ⟨['C'], ['/'], ['w']⟩).source ≠ [] ∧
      Node.SiblingsDiffer (fun node => nfkc node.name) (build ['C'] ['w'] records) := by
  intro records
  -- Neither name leaves anything out, so there is no pair to compare.
  have facts : (build ['C'] ['w'] records).children.isEmpty = false ∧
      (Asset.collisions (build ['C'] ['w'] records)).isEmpty = true ∧
      ((build ['C'] ['w'] records).places.all fun place => !place.drops (routes ['w'] records)) = true := by
    decide +kernel
  obtain ⟨filled, free, kept⟩ := facts
  have written : (generate records ⟨['C'], ['/'], ['w']⟩).source ≠ [] := source_ne_nil filled free
  have whole := List.all_eq_true.mp kept
  refine ⟨written, (siblingsDiffer_nfkc_iff records ⟨['C'], ['/'], ['w']⟩ written).2.mpr ?_⟩
  intro first member second alsoMember _ _ left
  -- Either of the two would be a name with something left out.
  rcases Bool.or_eq_true_iff.mp left with dropped | dropped
  · simpa [dropped] using whole first member
  · simpa [dropped] using whole second alsoMember

/--
Two files are written under names that have one normal form.

The first name is an alpha and a spacing iota below, whose normal form has a space that is left out.
The second name is the capital alpha with the iota, which the first then becomes as a normal form.
-/
theorem not_siblingsDiffer_nfkc :
    let records : List Record := [
      ⟨['/', 'p', '/', 'w', 'w', 'w', 'r', 'o', 'o', 't', '/', '\u03b1', '\u037a'], true⟩,
      ⟨['/', 'p', '/', 'w', 'w', 'w', 'r', 'o', 'o', 't', '/', '\u1fbc'], true⟩]
    let tree := build ['S'] ['w', 'w', 'w', 'r', 'o', 'o', 't'] records
    (generate records ⟨['S'], ['/'], ['w', 'w', 'w', 'r', 'o', 'o', 't']⟩).source ≠ [] ∧
      tree.children.map Node.name = [['\u0391', '\u0345'], ['\u1fbc']] ∧
      ¬ Node.SiblingsDiffer (fun node => nfkc node.name) tree := by
  -- The tree has two names without a collision, and one normal form for both.
  intro records tree
  have facts : tree.children.isEmpty = false ∧ (Asset.collisions tree).isEmpty = true ∧
      tree.children.map Node.name = [['\u0391', '\u0345'], ['\u1fbc']] ∧
      ¬ (tree.children.map fun node => nfkc node.name).Nodup := by decide +kernel
  obtain ⟨filled, free, names, shared⟩ := facts
  exact ⟨source_ne_nil filled free, names, fun differ => shared differ.nodup⟩

end AssetCatalog
