import AssetCatalog.Proofs.Discovery.Growth
import AssetCatalog.Proofs.Path.Output
import AssetCatalog.Proofs.Store.Relisting
import AssetCatalog.Proofs.Text.Joining

/-! The files beneath a directory: which ones they are, by which paths, and in one order however they are listed. -/

namespace AssetCatalog

namespace Store.Entry

/-- A name that an entry can have: a single step of a path, which leads down. -/
structure Proper (name : Text) : Prop extends Named name where
  /-- There is no separator in it. -/
  whole : '/' ∉ name

instance (name : Text) : Decidable (Proper name) :=
  decidable_of_iff (((name.isEmpty || name = ['.']) = false ∧ name ≠ ['.', '.'] ∧ ¬ 255 < Text.utf8Size name) ∧
      '/' ∉ name)
    ⟨fun ⟨⟨leaves, down, short⟩, whole⟩ => ⟨⟨leaves, down, short⟩, whole⟩,
      fun ⟨⟨leaves, down, short⟩, whole⟩ => ⟨⟨leaves, down, short⟩, whole⟩⟩

/-- A tree in which everything beneath the root has a proper name. -/
inductive WellNamed : Entry → Prop
  /-- A file holds no names. -/
  | file (name : Text) (content : Bytes) : WellNamed (.file name content)
  /-- A link holds no names. -/
  | link (name target : Text) : WellNamed (.link name target)
  /-- The names in a directory are proper, as are those in the directories it holds. -/
  | directory (name : Text) {entries : List Entry} (proper : ∀ child ∈ entries, Proper child.name)
      (deeper : ∀ child ∈ entries, WellNamed child) : WellNamed (.directory name entries)

/-- The names on the way to something are proper. -/
theorem WellNamed.proper {place : Place} : ∀ {root entry : Entry}, WellNamed root →
    root.at? place = some entry → ∀ name ∈ place, Proper name := by
  -- Each step names a child, and of a well-named tree every child is well named.
  induction place with
  | nil => exact fun _ _ name member => absurd member List.not_mem_nil
  | cons step place ih =>
    intro root entry named found
    rw [Entry.at?, Option.bind_eq_some_iff] at found
    obtain ⟨child, here, inside⟩ := found
    cases named with
    | file | link => cases here
    | directory own proper deeper =>
      have member := List.mem_of_find?_eq_some here
      exact List.forall_mem_cons.mpr ⟨name_of_child? here ▸ proper child member, ih (deeper child member) inside⟩

end Store.Entry

namespace Discovery

open Asset (Record relativePath?)
open Store (Entry Place)
open Store.Entry (Grows Proper Relisted WellNamed)

variable {store other : Store} {skips : Text → Bool} {directory name : Text} {base below : Place}

section Paths

/-- A proper name is not empty. -/
theorem ne_nil_of_proper (proper : Proper name) : name ≠ [] := by
  -- The empty name leaves a walk where it is, which a proper one does not.
  rintro rfl
  cases proper.leaves

/-- A proper name is no path from the root. -/
theorem isAbsolute_of_proper (proper : Proper name) : Path.isAbsolute name = false := by
  -- It would begin with a separator, and a proper name has none.
  rw [← Bool.not_eq_true, Path.isAbsolute_iff]
  rintro ⟨rest, rfl⟩
  exact proper.whole List.mem_cons_self

/-- A proper name comes in front of a path with one separator. -/
theorem front_of_proper (proper : Proper name) : Path.front name = name ++ ['/'] := by
  -- A proper name does not end in a separator, as it has none.
  obtain ⟨text, c, rfl⟩ := (name.eq_nil_or_concat).resolve_left (ne_nil_of_proper proper)
  rw [List.concat_eq_append, Path.front_concat, if_neg]
  rintro rfl
  exact proper.whole (by simp)

/-- The path of what lies some names beneath a directory consists of that of the directory and the names. -/
theorem pathOf_eq_front_append : ∀ {below : Place} {directory : Text}, directory ≠ [] → below ≠ [] →
    (∀ name ∈ below, Proper name) → pathOf directory below = Path.front directory ++ Text.joinWith ['/'] below
  | [name], directory, _, _, proper => by
    have relative := isAbsolute_of_proper (proper name List.mem_cons_self)
    simp [pathOf, Path.join_of_relative relative, Text.joinWith_cons]
  | name :: next :: rest, directory, filled, _, proper => by
    -- The first name belongs to the directory in which the others are.
    obtain ⟨first, others⟩ := List.forall_mem_cons.mp proper
    have join : Path.join directory name = Path.front directory ++ name :=
      Path.join_of_relative (isAbsolute_of_proper first)
    have longer : Path.join directory name ≠ [] := by
      rw [join]
      exact List.append_ne_nil_of_right_ne_nil _ (ne_nil_of_proper first)
    have step : pathOf directory (name :: next :: rest) = pathOf (Path.join directory name) (next :: rest) := rfl
    rw [step, pathOf_eq_front_append longer (List.cons_ne_nil _ _) others, join,
      Path.front_front_append filled, front_of_proper first]
    simp [Text.joinWith_cons]

/-- The names beneath a directory can be read off a path. -/
theorem splitOn_joinWith_of_proper (beneath : below ≠ []) (proper : ∀ name ∈ below, Proper name) :
    (Text.joinWith ['/'] below).splitOn '/' = below :=
  Text.splitOn_joinWith beneath fun name member => (proper name member).whole

/-- At different places there are different paths. -/
theorem pathOf_inj {again : Place} (filled : directory ≠ []) (beneath : below ≠ []) (alsoBeneath : again ≠ [])
    (proper : ∀ name ∈ below, Proper name) (alsoProper : ∀ name ∈ again, Proper name)
    (same : pathOf directory below = pathOf directory again) : below = again := by
  -- Both paths have the same front; behind it the names are joined by separators, which are in none.
  rw [pathOf_eq_front_append filled beneath proper, pathOf_eq_front_append filled alsoBeneath alsoProper] at same
  rw [← splitOn_joinWith_of_proper beneath proper, List.append_cancel_left same,
    splitOn_joinWith_of_proper alsoBeneath alsoProper]

/-- The steps of a path are those to the directory and the names, but for a last step in place. -/
theorem splitOn_pathOf (filled : directory ≠ []) (beneath : below ≠ []) (proper : ∀ name ∈ below, Proper name) :
    (pathOf directory below).splitOn '/' = directory.splitOn '/' ++ below ∨
      ∃ steps, directory.splitOn '/' = steps ++ [[]] ∧ (pathOf directory below).splitOn '/' = steps ++ below := by
  have names := splitOn_joinWith_of_proper beneath proper
  obtain ⟨text, c, rfl⟩ := (directory.eq_nil_or_concat).resolve_left filled
  rw [pathOf_eq_front_append filled beneath proper, List.concat_eq_append, Path.front_concat]
  split
  next separator =>
    -- The path of the directory ends in a separator, behind which there is an empty step.
    subst separator
    refine .inr ⟨text.splitOn '/', List.splitOn_append_cons_self text [], ?_⟩
    rw [List.append_assoc, List.singleton_append, List.splitOn_append_cons_self, names]
  next =>
    refine .inl ?_
    rw [List.append_assoc, List.singleton_append, List.splitOn_append_cons_self, names]

/-- The path of what lies beneath a directory that is named from the root on is one from the root on. -/
theorem isAbsolute_pathOf (rooted : Path.isAbsolute directory = true) (below : Place) :
    Path.isAbsolute (pathOf directory below) = true := by
  -- Each name is joined to a path that is absolute already.
  induction below generalizing directory with
  | nil => exact rooted
  | cons name below ih => exact ih (Path.isAbsolute_join rooted)

/-- The path of what lies some names beneath a directory leads there. -/
theorem place_pathOf (led : store.place directory true = .ok base) (beneath : below ≠ [])
    (proper : ∀ name ∈ below, Proper name) (there : (store.root.at? (base ++ below)).isSome = true) :
    store.place (pathOf directory below) false = .ok (base ++ below) := by
  obtain ⟨filled, way⟩ := Store.place_eq_ok_iff.mp led
  obtain ⟨found, here⟩ := Option.isSome_iff_exists.mp there
  have further : pathOf directory below ≠ [] := by
    rw [pathOf_eq_front_append filled beneath proper]
    obtain ⟨front, ends⟩ := Path.exists_front_eq filled
    simp [ends]
  -- The directory is there, as something lies beneath it.
  have around : (store.root.at? base).isSome = true := by
    rw [Store.Entry.at?_append, Option.bind_eq_some_iff] at here
    obtain ⟨entry, above, -⟩ := here
    rw [above, Option.isSome_some]
  -- From the directory on, the names are the steps.
  have onward := way.append around
    (Store.Entry.walks_of_at? (fun name member => (proper name member).toNamed) here) beneath
  refine Store.place_eq_ok_iff.mpr ⟨further, ?_⟩
  obtain steps | ⟨steps, ends, same⟩ := splitOn_pathOf filled beneath proper
  · -- The names are put behind the steps of the directory, after one blank step where it ends in a separator.
    rwa [steps]
  · rw [ends, List.append_assoc, List.singleton_append] at onward
    rw [same]
    exact onward.skip beneath

end Paths

section Listing

/-- Whether something that leads to no directory is to be found some names beneath the directory at a path. -/
def LiesBeneath (store : Store) (skips : Text → Bool) (directory : Text) (below : Place) : Prop :=
  ∃ base entry, store.place directory true = .ok base ∧ store.root.at? base = some entry ∧
    Seen store skips base entry below

/-- In the directory at a path, what lies beneath it is found at places in order. -/
theorem exists_places (exclusions : List Exclusion) (directory : Text) (distinct : store.root.Distinct) :
    ∃ places : List Place, files store exclusions directory = places.map (pathOf directory) ∧
      (∀ below, below ∈ places ↔ LiesBeneath store (Exclusion.matchesAny exclusions) directory below) ∧
      places.Pairwise Precedes := by
  -- Without anything at the path there is nothing to be found.
  cases led : store.place directory true with
  | error => exact ⟨[], by simp [files, led], by simp [LiesBeneath, led], .nil⟩
  | ok base =>
    cases found : store.root.at? base with
    | none => exact ⟨[], by simp [files, led, found], by simp [LiesBeneath, led, found], .nil⟩
    | some entry =>
      have deeper := distinct.at? found
      refine ⟨placesIn store (Exclusion.matchesAny exclusions) base entry,
        by simp [files, led, found, filesIn_eq_map], fun below => ?_, pairwise_placesIn deeper base⟩
      rw [mem_placesIn_iff_seen below deeper]
      simp [LiesBeneath, led, found]

/-- What lies beneath a directory still does after the tree has grown without new links to directories. -/
theorem LiesBeneath.grow (found : LiesBeneath store skips directory below) (grown : Grows store.root other.root)
    (stay : LinksStay directory store other) : LiesBeneath other skips directory below := by
  -- The directory is still there and led to; what was seen beneath it is seen still.
  obtain ⟨base, entry, led, here, seen⟩ := found
  obtain ⟨now, there, -⟩ := Option.map_eq_some_iff.mp (grown.kept here)
  exact ⟨base, now, Store.place_of_grows grown led, there, seen.grow grown led stay here there⟩

/-- The order in which directories list what they hold does not matter for what lies beneath one of them. -/
theorem liesBeneath_iff_of_relisted (distinct : store.root.Distinct) (again : Relisted store.root other.root) :
    LiesBeneath other skips directory below ↔ LiesBeneath store skips directory below := by
  -- Each listing has grown into the other, and growth keeps what is found.
  obtain ⟨grown, back⟩ := again.grows distinct
  exact ⟨fun found => found.grow back fun _ _ leads => leadsToDirectory_of_grows grown leads,
    fun found => found.grow grown fun _ _ leads => leadsToDirectory_of_grows back leads⟩

/-- The order in which directories list what they hold does not matter for the files that are found. -/
theorem files_of_relisted (exclusions : List Exclusion) (distinct : store.root.Distinct)
    (again : Relisted store.root other.root) : files other exclusions directory = files store exclusions directory := by
  -- Both lists hold the same places, and one order puts both in line.
  obtain ⟨places, found, members, ordered⟩ := exists_places exclusions directory distinct
  obtain ⟨anew, alsoFound, alsoMembers, alsoOrdered⟩ := exists_places exclusions directory (again.distinct distinct)
  rw [found, alsoFound, eq_of_pairwise_precedes alsoOrdered ordered fun below => by
    rw [members, alsoMembers, liesBeneath_iff_of_relisted distinct again]]

/-- What lies beneath a directory is there under proper names, and its path leads to it. -/
theorem LiesBeneath.reached (found : LiesBeneath store skips directory below) (named : store.root.WellNamed) :
    below ≠ [] ∧ (∀ name ∈ below, Proper name) ∧
      ∃ base, store.place directory true = .ok base ∧
        store.place (pathOf directory below) false = .ok (base ++ below) := by
  -- Whatever is seen from the directory stands in the tree, where all names are proper.
  obtain ⟨base, entry, led, here, seen⟩ := found
  obtain ⟨goal, there, -⟩ := seen.there
  have whole : store.root.at? (base ++ below) = some goal := by rw [at?_root_append here, there]
  have proper : ∀ name ∈ below, Proper name := fun name member =>
    named.proper whole name (List.mem_append_right base member)
  exact ⟨seen.beneath, proper, base, led, place_pathOf led seen.beneath proper (by rw [whole, Option.isSome_some])⟩

/-- The assets are the files that lie beneath the asset root, in their order. -/
theorem map_source_assets (exclusions : List Exclusion) (rootDirectory : Text) (default : Bool)
    (overrides : List (Text × Bool)) :
    (assets store exclusions rootDirectory default overrides directory).map Record.source =
      (files store exclusions directory).filter fun path => (relativePath? rootDirectory path).isSome := by
  -- A file makes a record exactly where it has a place beneath the asset root.
  rw [assets, List.map_filterMap, ← List.filterMap_eq_filter]
  refine List.filterMap_congr fun path _ => ?_
  cases placed : relativePath? rootDirectory path <;> simp [record?, placed, Option.guard]

/-- An asset has the flag that the overrides give to its place beneath the asset root. -/
theorem flatten_of_mem_assets {exclusions : List Exclusion} {rootDirectory : Text} {default : Bool}
    {overrides : List (Text × Bool)} {record : Record}
    (member : record ∈ assets store exclusions rootDirectory default overrides directory) :
    ∃ relative, relativePath? rootDirectory record.source = some relative ∧
      record.flatten = Glob.resolveFlag default overrides relative := by
  -- The record was made of a path with its place, and the flag is resolved for that.
  obtain ⟨path, -, made⟩ := List.mem_filterMap.mp member
  obtain ⟨relative, placed, rfl⟩ := Option.map_eq_some_iff.mp made
  exact ⟨relative, placed, rfl⟩

/-- The places of the files that are found beneath the directory at a path. -/
structure Lists (store : Store) (exclusions : List Exclusion) (directory : Text) (places : List Place) : Prop where
  /-- The files are those at the places. -/
  found : files store exclusions directory = places.map (pathOf directory)
  /-- The places are those where something is to be found. -/
  complete : ∀ below, below ∈ places ↔ LiesBeneath store (Exclusion.matchesAny exclusions) directory below
  /-- In each directory, its files come first, by name, and then what lies in the directories in it, by name. -/
  ordered : places.Pairwise Precedes
  /-- No file is found twice. -/
  once : (files store exclusions directory).Nodup
  /-- All paths are named from the root on. -/
  rooted : ∀ path ∈ files store exclusions directory, Path.isAbsolute path = true
  /-- Each path leads to the file that it is the path of. -/
  reached : ∀ below ∈ places, ∃ base, store.place directory true = .ok base ∧
    store.place (pathOf directory below) false = .ok (base ++ below)

/-- The files beneath a directory that is named from the root on are all found, and once each. -/
theorem exists_lists (exclusions : List Exclusion) (distinct : store.root.Distinct) (named : store.root.WellNamed)
    (rooted : Path.isAbsolute directory = true) : ∃ places, Lists store exclusions directory places := by
  obtain ⟨places, found, complete, ordered⟩ := exists_places exclusions directory distinct
  have filled : directory ≠ [] := by
    rintro rfl
    cases rooted
  -- Every place found is one that lies beneath the directory.
  have proper : ∀ below ∈ places, below ≠ [] ∧ ∀ name ∈ below, Proper name := fun below member =>
    let ⟨beneath, proper, _⟩ := ((complete below).mp member).reached named
    ⟨beneath, proper⟩
  refine ⟨places, found, complete, ordered, ?_, fun path member => ?_, fun below member => ?_⟩
  · -- The places are different from one another, and so are their paths.
    rw [found]
    refine (nodup_of_pairwise_precedes ordered).map_on fun below member again alsoMember same => ?_
    exact pathOf_inj filled (proper below member).1 (proper again alsoMember).1 (proper below member).2
      (proper again alsoMember).2 same
  · rw [found] at member
    obtain ⟨below, -, rfl⟩ := List.mem_map.mp member
    exact isAbsolute_pathOf rooted below
  · exact (((complete below).mp member).reached named).2.2

/--
All files beneath a directory are found, each once, and in an order that does not depend on how directories are listed.

A file is found where no name beneath the directory is to skip, and no link is gone into on the way to it.
Its path leads to it from the root.
Among the files, the assets are those that lie beneath the asset root, with the flags that their places there have.
-/
theorem files_listed {workingDirectory : Text} (distinct : store.root.Distinct) (named : store.root.WellNamed)
    (rooted : Path.isAbsolute workingDirectory = true) (exclusions : List Exclusion) (inputPath : Text) :
    let directory := Path.absolute workingDirectory inputPath
    (∃ places, Lists store exclusions directory places) ∧
      (∀ other : Store, Relisted store.root other.root →
        files other exclusions directory = files store exclusions directory) ∧
      ∀ rootDirectory default overrides,
        (assets store exclusions rootDirectory default overrides directory).map Record.source =
            (files store exclusions directory).filter (fun path => (relativePath? rootDirectory path).isSome) ∧
          ∀ record ∈ assets store exclusions rootDirectory default overrides directory,
            ∃ relative, relativePath? rootDirectory record.source = some relative ∧
              record.flatten = Glob.resolveFlag default overrides relative := by
  -- The list and its order are known from the places, and what is an asset from the paths.
  intro directory
  refine ⟨exists_lists exclusions distinct named (Path.isAbsolute_absolute rooted), fun other again => ?_, ?_⟩
  · exact files_of_relisted exclusions distinct again
  · exact fun rootDirectory default overrides =>
      ⟨map_source_assets exclusions rootDirectory default overrides, fun _ member => flatten_of_mem_assets member⟩

/-- In either order the files come by name, without one that is to skip and without what a link leads to. -/
theorem files_listed_twice :
    let inner (entries : List Entry) : Entry := .directory ['d'] entries
    let project (entries : List Entry) : Store := ⟨.directory [] [.directory ['w'] entries]⟩
    let store := project [.file ['b'] [], inner [.file ['c'] [], .file ['x'] []], .link ['l'] ['d'], .file ['a'] []]
    let other := project [.file ['a'] [], .link ['l'] ['d'], inner [.file ['x'] [], .file ['c'] []], .file ['b'] []]
    let exclusions := (Exclusion.compile (fun _ => none) [['x']]).toOption.getD []
    Relisted store.root other.root ∧
      files store exclusions ['/', 'w'] = ["/w/a".toList, "/w/b".toList, "/w/d/c".toList] ∧
      files other exclusions ['/', 'w'] = ["/w/a".toList, "/w/b".toList, "/w/d/c".toList] ∧
      (files store exclusions ['/', 'w']).Nodup := by
  intro inner project store other exclusions
  -- What the theorem asks of the tree is shown directory by directory.
  have distinct : store.root.Distinct := by
    refine .directory (by decide) fun child member => ?_
    obtain rfl := List.mem_singleton.mp member
    refine .directory (by decide) fun child member => ?_
    simp only [List.mem_cons, List.not_mem_nil, or_false] at member
    rcases member with rfl | rfl | rfl | rfl
    · exact .file _ _
    · refine .directory (by decide) fun child member => ?_
      simp only [List.mem_cons, List.not_mem_nil, or_false] at member
      rcases member with rfl | rfl <;> exact .file _ _
    · exact .link _ _
    · exact .file _ _
  have named : store.root.WellNamed := by
    refine .directory _ (by decide) fun child member => ?_
    obtain rfl := List.mem_singleton.mp member
    refine .directory _ (by decide) fun child member => ?_
    simp only [List.mem_cons, List.not_mem_nil, or_false] at member
    rcases member with rfl | rfl | rfl | rfl
    · exact .file _ _
    · refine .directory _ (by decide) fun child member => ?_
      simp only [List.mem_cons, List.not_mem_nil, or_false] at member
      rcases member with rfl | rfl <;> exact .file _ _
    · exact .link _ _
    · exact .file _ _
  -- The inner directory is turned round first, and the outer one with it in its place.
  have within : Relisted (inner [.file ['c'] [], .file ['x'] []]) (inner [.file ['x'] [], .file ['c'] []]) :=
    .directory id (fun child _ => .refl child) (List.reverse_perm _).symm
  have again : Relisted store.root other.root := by
    refine .directory (fun _ => .directory ['w'] _) (fun child member => ?_) (.refl _)
    obtain rfl := List.mem_singleton.mp member
    refine .directory (fun child => if child.isDirectory then inner [.file ['x'] [], .file ['c'] []] else child)
      (fun child member => ?_) ?_
    · simp only [List.mem_cons, List.not_mem_nil, or_false] at member
      rcases member with rfl | rfl | rfl | rfl
      · exact .file _ _
      · exact within
      · exact .link _ _
      · exact .file _ _
    · exact (List.reverse_perm _).symm
  have rooted : Path.isAbsolute ['/'] = true := rfl
  obtain ⟨⟨places, lists⟩, same, -⟩ := files_listed distinct named rooted exclusions ['w']
  have whole : Path.absolute ['/'] ['w'] = ['/', 'w'] := by decide +kernel
  rw [whole] at lists same
  -- One listing is computed, and the general law gives the other one.
  have found : files store exclusions ['/', 'w'] = ["/w/a".toList, "/w/b".toList, "/w/d/c".toList] := by
    decide +kernel
  exact ⟨again, found, (same other again).trans found, lists.once⟩

end Listing

end Discovery

end AssetCatalog
