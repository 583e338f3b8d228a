import AssetCatalog.Generation
import AssetCatalog.Proofs.Asset.Files
import AssetCatalog.Proofs.Module.Lines

/-! What a generated module binds: one constant for each file, with the web path of that file. -/

namespace AssetCatalog

open Asset (Node Place Record Route build collisions dotted keys routes)
open Reader (Binding Reads)

/-- A module is written for a tree that has nodes and no collisions. -/
theorem source_generate (records : List Record) (target : Target) :
    (generate records target).source =
      if (build target.className target.rootDirectory records).children.isEmpty then []
      else if (collisions (build target.className target.rootDirectory records)).isEmpty then
        Layout.moduleText target.pathBase (build target.className target.rootDirectory records)
      else [] := by
  -- The other two outcomes have no text.
  simp only [Generation.source, generate, Asset.build_beneath]
  split_ifs <;> rfl

/-- What is written is the module of a tree without collisions. -/
theorem source_of_ne_nil {records : List Record} {target : Target}
    (written : (generate records target).source ≠ []) :
    collisions (build target.className target.rootDirectory records) = [] ∧
      (generate records target).source =
        Layout.moduleText target.pathBase (build target.className target.rootDirectory records) := by
  -- Of the three ways to end, only one has a text.
  rw [source_generate] at written ⊢
  split_ifs at written ⊢ with childless free
  · exact absurd rfl written
  · exact ⟨List.isEmpty_iff.mp free, rfl⟩
  · exact absurd rfl written

/-- A tree that has nodes and no collisions has a module that is not empty. -/
theorem source_ne_nil {records : List Record} {target : Target}
    (filled : (build target.className target.rootDirectory records).children.isEmpty = false)
    (free : (collisions (build target.className target.rootDirectory records)).isEmpty = true) :
    (generate records target).source ≠ [] := by
  rw [source_generate, if_neg (ne_true_of_eq_false filled), if_pos free]
  -- The module ends in a line feed, whatever it holds.
  simp [Layout.moduleText]

/-- The tree of records is named by the outermost class. -/
theorem name_build (className root : Text) (records : List Record) : (build className root records).name = className :=
  congrArg Node.name (Asset.bare_build className root records)

/-- Within the outermost class, the module of the tree of records is read as the places of the tree. -/
theorem reads_bodyLines_build (className base root : Text) (records : List Record) :
    Reads [(build className root records).name] (Layout.bodyLines base 0 (build className root records))
      ((build className root records).places.map (Place.binding className base)) := by
  rw [name_build]
  refine Layout.reads_bodyLines className base (build className root records) [] (fun place member => ?_)
    fun place member => Asset.children_eq_nil_of_isLeaf member
  -- The names of nodes are made of texts, and what is made of a text is an identifier.
  obtain ⟨text, stripExtension, same⟩ := Asset.exists_name_of_mem_places member
  rw [same]
  exact Name.isIdentifier_ofText text stripExtension

/-- The classes of the tree of records are read as the root and the places of the tree. -/
theorem reads_groupLines_build {className : Text} (named : Unicode.isIdentifier className = true)
    (base root : Text) (records : List Record) :
    Reads [] (Layout.groupLines base 0 (build className root records))
      (⟨[], className, none⟩ :: (build className root records).places.map (Place.binding className base)) := by
  -- The root of the tree has the class name, and its body is read below that name.
  have body := reads_bodyLines_build className base root records
  rw [name_build] at body
  rw [Layout.groupLines_eq, name_build]
  exact Reads.group named body

/-- The dotted key of a constant without the outermost class, and its value. -/
def Reader.Binding.constant? (binding : Binding) : Option (Text × Text) :=
  -- The outermost class is the first of the classes around a name.
  binding.value.map fun value => (dotted (binding.scope.tail ++ [binding.name]), value)

/-- The constants among the places of a tree are its nodes that are no directories. -/
theorem filterMap_constant?_places (className base : Text) (tree : Node) :
    (tree.places.map (Place.binding className base)).filterMap Binding.constant? =
      (tree.places.filter fun place => place.node.isLeaf).map fun place =>
        (dotted (place.way Node.name), webPath base (place.node.relative.getD [])) := by
  -- A class binds no value, so the bindings of directories are left out.
  rw [List.filterMap_map, ← List.filterMap_eq_map, List.filterMap_filter]
  refine List.filterMap_congr fun place _ => ?_
  cases kind : place.node.isLeaf <;> simp [Place.binding, Binding.constant?, Place.way, kind]

/-- A generated module is read back with as many constants as there are files. -/
theorem length_constants_generate (records : List Record) (target : Target)
    (named : Unicode.isIdentifier target.className = true)
    (written : (generate records target).source ≠ []) :
    ∃ bindings, Reader.read? (generate records target).source = some bindings ∧
      (bindings.filterMap Binding.constant?).length = (routes target.rootDirectory records).length := by
  obtain ⟨free, text⟩ := source_of_ne_nil written
  have read := reads_groupLines_build named target.pathBase target.rootDirectory records
  obtain ⟨bindings, found, same⟩ := Layout.read?_moduleText read
  refine ⟨bindings, by rw [text, found], ?_⟩
  -- The outermost class is no constant, and every other binding is that of a place.
  have constants := (same.filterMap Binding.constant?).length_eq
  rw [List.filterMap_cons_none rfl, filterMap_constant?_places, List.length_map] at constants
  rw [constants, ← List.length_map fun route : Route => [route.record.source]]
  have leaves := (Asset.map_leaves_perm free fun _ sources _ => sources).length_eq
  rwa [List.length_map] at leaves

/-- Modules with one text were generated for as many files. -/
theorem length_routes_eq_of_source_eq {records others : List Record} {target : Target}
    (named : Unicode.isIdentifier target.className = true)
    (written : (generate records target).source ≠ [])
    (same : (generate others target).source = (generate records target).source) :
    (routes target.rootDirectory others).length = (routes target.rootDirectory records).length := by
  -- Both counts are that of the constants in the one text.
  obtain ⟨bindings, read, count⟩ := length_constants_generate records target named written
  obtain ⟨_, again, counted⟩ := length_constants_generate others target named (same ▸ written)
  obtain rfl := Option.some.inj (read.symm.trans (same ▸ again))
  rw [← count, ← counted]

/-- A module depends on the routes of the records alone. -/
theorem source_eq_of_routes_eq {records others : List Record} {target : Target}
    (same : routes target.rootDirectory others = routes target.rootDirectory records) :
    (generate others target).source = (generate records target).source := by
  rw [source_generate, source_generate, Asset.build_eq_foldl_routes, Asset.build_eq_foldl_routes, same]

/--
A generated module is read back as the files that it was generated for.

Its text is cut at line feeds into just the lines that were laid out.
All that it binds is the class asked for, or within that class.
Each record that names a file has one constant, at the key that the record claims.
The value of the constant is the web path of the file, without empty segments.
-/
theorem read?_generate (records : List Record) (target : Target)
    (named : Unicode.isIdentifier target.className = true)
    (written : (generate records target).source ≠ []) :
    let source := (generate records target).source
    let tree := build target.className target.rootDirectory records
    let files := routes target.rootDirectory records
    source.splitOn '\n' =
        Layout.withoutTrailingBlanks (Layout.preamble ++ Layout.groupLines target.pathBase 0 tree) ++ [[]] ∧
      (∀ c ∈ source, c.toNat < 0x20 → c = '\n') ∧
      (keys tree).Perm (files.map fun file => (file.key tree, [file.record.source])) ∧
      ((keys tree).map Prod.fst).Nodup ∧
      ∃ bindings, Reader.read? source = some bindings ∧
        (∀ binding ∈ bindings, (binding.scope ++ [binding.name]).head? = some target.className) ∧
        (bindings.filterMap Binding.constant?).Perm
          (files.map fun file => (file.key tree, webPath target.pathBase file.path)) := by
  intro source tree files
  obtain ⟨free, text⟩ := source_of_ne_nil written
  have read := reads_groupLines_build named target.pathBase target.rootDirectory records
  obtain ⟨bindings, found, same⟩ := Layout.read?_moduleText read
  refine ⟨?_, ?_, Asset.keys_perm_routes free, Asset.nodup_gather _, bindings, ?_, ?_, ?_⟩
  · -- Visible lines hold no line feed, so the text is cut into just these.
    rw [show source = _ from text]
    exact Layout.splitOn_moduleText read.visible
  · intro c member
    rw [show source = _ from text] at member
    exact Layout.lineFeed_of_mem_moduleText read.visible member
  · rw [show source = _ from text]
    exact found
  · -- A binding is the outermost class or belongs to a place, whose scope starts with that class.
    intro binding member
    rcases List.mem_cons.mp (same.subset member) with rfl | placed
    · rfl
    · obtain ⟨place, _, rfl⟩ := List.mem_map.mp placed
      rfl
  · -- Classes are no constants, and each leaf has the path of its record.
    refine (same.filterMap _).trans ?_
    rw [List.filterMap_cons_none rfl, filterMap_constant?_places]
    exact Asset.map_leaves_perm free fun key _ relative =>
      (key, webPath target.pathBase (relative.getD []))

/-- A quote in the name of a file and a line feed in the path base are read back in the value. -/
theorem read?_generate_quoted :
    ∃ bindings, Reader.read? (generate [⟨['/', 'w', '/', 'A', '"'], true⟩] ⟨['C'], ['\n'], ['w']⟩).source =
        some bindings ∧
      bindings.filterMap Binding.constant? = [(['A'], ['\n', '/', 'A', '"'])] := by
  -- The file of the one record is evaluated, and its constant is what is read back.
  have written : (generate [⟨['/', 'w', '/', 'A', '"'], true⟩] ⟨['C'], ['\n'], ['w']⟩).source ≠ [] :=
    source_ne_nil (by decide +kernel) (by decide +kernel)
  obtain ⟨_, _, _, _, bindings, found, _, constants⟩ :=
    read?_generate [⟨['/', 'w', '/', 'A', '"'], true⟩] ⟨['C'], ['\n'], ['w']⟩ (by decide +kernel) written
  have files : ((routes ['w'] [⟨['/', 'w', '/', 'A', '"'], true⟩]).map fun file =>
      (file.key (build ['C'] ['w'] [⟨['/', 'w', '/', 'A', '"'], true⟩]), webPath ['\n'] file.path)) =
        [(['A'], ['\n', '/', 'A', '"'])] := by decide +kernel
  rw [files] at constants
  exact ⟨bindings, found, List.perm_singleton.mp constants⟩

end AssetCatalog
