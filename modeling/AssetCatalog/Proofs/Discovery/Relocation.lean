import AssetCatalog.Proofs.Asset.Opening
import AssetCatalog.Proofs.Discovery.Growth
import AssetCatalog.Proofs.Text.Counterparts

/-! What is found in a content does not depend on where that stands, but for an asset root in the path to it. -/

namespace AssetCatalog

namespace Store.Entry

/-- A tree of directories and files, without any links. -/
inductive Solid : Entry → Prop
  /-- A file is no link. -/
  | file (name : Text) (content : Bytes) : Solid (.file name content)
  /-- What a directory holds is solid. -/
  | directory (name : Text) {entries : List Entry} (deeper : ∀ child ∈ entries, Solid child) :
      Solid (.directory name entries)

/-- What stands at a place of a solid tree is solid. -/
theorem Solid.at? {place : Place} : ∀ {root entry : Entry}, Solid root →
    root.at? place = some entry → Solid entry := by
  -- Each step leads to a child, and the children of a solid directory are solid.
  induction place with
  | nil =>
    intro root entry solid found
    exact Option.some.inj found ▸ solid
  | cons step place ih =>
    intro root entry solid found
    rw [Entry.at?, Option.bind_eq_some_iff] at found
    obtain ⟨child, named, inside⟩ := found
    cases solid with
    | file => cases named
    | directory name deeper => exact ih (deeper child (List.mem_of_find?_eq_some named)) inside

/-- Whether two entries hold the same directories and files under the same names, in whatever order. -/
structure SameTree (content replica : Entry) : Prop where
  /-- The directories of the first one hold each name once. -/
  distinct : content.Distinct
  /-- So do those of the second one. -/
  alsoDistinct : replica.Distinct
  /-- There are no links. -/
  solid : content.Solid
  /-- At each place beneath them, both have a directory, both have a file, or both have nothing. -/
  kinds : ∀ below, below ≠ [] → (content.at? below).map kind = (replica.at? below).map kind

/-- A tree without links, whose directories hold each name once, is the same as itself. -/
theorem SameTree.refl {content : Entry} (distinct : content.Distinct) (solid : content.Solid) :
    SameTree content content :=
  ⟨distinct, distinct, solid, fun _ _ => rfl⟩

end Store.Entry

namespace Discovery

open Asset (Record StandAlike relativePath?)
open Store (Entry Place)
open Store.Entry (SameTree Solid)

section Places

variable {store other : Store} {skips : Text → Bool} {place alsoPlace below : Place} {entry like : Entry}

/-- What is of the kind of a file or a directory leads to a directory alike, wherever it stands. -/
theorem leadsToDirectory_of_kind (solid : entry.Solid) (same : entry.kind = like.kind) :
    leadsToDirectory store place entry = leadsToDirectory other alsoPlace like := by
  -- A solid entry is no link, so its kind alone tells what it leads to.
  cases solid with
  | file =>
    cases like with
    | file => rfl
    | directory | link => cases same
  | directory =>
    cases like with
    | directory => rfl
    | file | link => cases same

/-- The same is seen in the same tree, wherever that stands. -/
theorem seen_iff_of_sameTree (same : SameTree entry like) :
    Seen store skips place entry below ↔ Seen other skips alsoPlace like below := by
  -- The names on the way are the same in both trees; what is at their end is of one kind.
  have there : below ≠ [] →
      ((∃ found, entry.at? below = some found ∧ leadsToDirectory store (place ++ below.dropLast) found = false) ↔
        ∃ found, like.at? below = some found ∧
          leadsToDirectory other (alsoPlace ++ below.dropLast) found = false) := by
    intro beneath
    have kinds := same.kinds below beneath
    cases found : entry.at? below with
    | none =>
      rw [found, Option.map_none, eq_comm, Option.map_eq_none_iff] at kinds
      simp [kinds]
    | some child =>
      rw [found, Option.map_some, eq_comm, Option.map_eq_some_iff] at kinds
      obtain ⟨twin, alsoFound, kind⟩ := kinds
      -- Entries of one kind lead to a directory alike.
      have leads : leadsToDirectory store (place ++ below.dropLast) child =
          leadsToDirectory other (alsoPlace ++ below.dropLast) twin :=
        leadsToDirectory_of_kind (same.solid.at? found) kind.symm
      simp [alsoFound, leads]
  constructor
  · exact fun ⟨beneath, kept, found⟩ => ⟨beneath, kept, (there beneath).mp found⟩
  · exact fun ⟨beneath, kept, found⟩ => ⟨beneath, kept, (there beneath).mpr found⟩

/-- The places of the files of a tree do not depend on where the tree stands. -/
theorem placesIn_of_sameTree (same : SameTree entry like) :
    placesIn store skips place entry = placesIn other skips alsoPlace like := by
  -- Both are in order, and have the same members.
  refine eq_of_pairwise_precedes (pairwise_placesIn same.distinct _) (pairwise_placesIn same.alsoDistinct _) ?_
  intro below
  rw [mem_placesIn_iff_seen below same.distinct, mem_placesIn_iff_seen below same.alsoDistinct,
    seen_iff_of_sameTree same]

end Places

section Paths

/-- Some names beneath a directory lead to a path behind that, unless one of the names is a path itself. -/
theorem pathOf_cases {names : Place} (beneath : names ≠ []) :
    (∃ path, ∀ directory, directory ≠ [] → pathOf directory names = path) ∨
      ∃ path, ∀ directory, directory ≠ [] → pathOf directory names = Path.front directory ++ path := by
  -- A path starts anew at the last name that is a path itself.
  induction names using List.reverseRecOn with
  | nil => exact absurd rfl beneath
  | append_singleton names last ih =>
    have step : ∀ directory, pathOf directory (names ++ [last]) = Path.join (pathOf directory names) last :=
      fun directory => List.foldl_append
    cases rooted : Path.isAbsolute last with
    | true => exact .inl ⟨last, fun directory _ => by rw [step, Path.join_of_isAbsolute rooted]⟩
    | false =>
      -- Behind a path of its own, or behind the front, the last name is joined.
      obtain rfl | more := eq_or_ne names []
      · exact .inr ⟨last, fun directory _ => by rw [step, Path.join_of_relative rooted]; rfl⟩
      · obtain ⟨path, same⟩ | ⟨path, same⟩ := ih more
        · exact .inl ⟨Path.join path last, fun directory filled => by rw [step, same directory filled]⟩
        · refine .inr ⟨Path.front path ++ last, fun directory filled => ?_⟩
          rw [step, same directory filled, Path.join_of_relative rooted, Path.front_front_append filled,
            List.append_assoc]

variable {root first second directory relative : Text} {names : Place}

/-- What lies some names beneath directories that stand alike to the asset root lies at one place beneath that. -/
theorem relativePath?_pathOf_eq (alike : StandAlike root first second) (filled : first ≠ []) (alsoFilled : second ≠ [])
    (beneath : names ≠ []) : relativePath? root (pathOf first names) = relativePath? root (pathOf second names) := by
  -- A name that is a path itself leaves nothing of the directory; otherwise its front is in front.
  obtain ⟨path, same⟩ | ⟨path, same⟩ := pathOf_cases beneath
  · rw [same first filled, same second alsoFilled]
  · rw [same first filled, same second alsoFilled, alike.relativePath?_eq filled alsoFilled]

/-- What lies beneath an asset root by its names alone lies at the same place beneath it in every directory. -/
theorem relativePath?_pathOf_of_root (placed : relativePath? root (pathOf ['/'] names) = some relative)
    (filled : directory ≠ []) (beneath : names ≠ []) :
    relativePath? root (pathOf directory names) = some relative := by
  -- What is put in front of the names may only add roots farther to the front.
  obtain ⟨path, same⟩ | ⟨path, same⟩ := pathOf_cases beneath
  · rwa [same directory filled, ← same ['/'] (by simp)]
  · rw [same ['/'] (by simp)] at placed
    rw [same directory filled]
    exact Asset.relativePath?_front_of_root placed filled

end Paths

section Findings

variable (exclusions : List Exclusion) (root : Text) (default : Bool) (overrides : List (Text × Bool))

/-- The assets of a tree that stands at a path, by their names from there on, each with its flag. -/
def findings (content : Entry) (directory : Text) : List (Place × Bool) :=
  -- The places of the files do not depend on the store that the tree is a part of.
  (placesIn {} (Exclusion.matchesAny exclusions) [] content).filterMap fun names =>
    (relativePath? root (pathOf directory names)).map fun relative =>
      (names, Glob.resolveFlag default overrides relative)

/-- The record of an asset of a tree that stands at a path. -/
def recordAt (directory : Text) (file : Place × Bool) : Record where
  source := pathOf directory file.1
  flatten := file.2

/-- A path that leads somewhere is not empty. -/
theorem ne_nil_of_find? {store : Store} {directory : Text} {content : Entry}
    (found : store.find? directory = some content) : directory ≠ [] := by
  rintro rfl
  cases found

/-- The assets beneath a path are those of the tree that stands there. -/
theorem assets_eq_map_findings {store : Store} {directory : Text} {content replica : Entry}
    (here : store.find? directory = some replica) (same : SameTree content replica) :
    assets store exclusions root default overrides directory =
      (findings exclusions root default overrides content directory).map (recordAt directory) := by
  -- The files are those at the places of the tree, wherever it stands.
  have places : files store exclusions directory =
      (placesIn {} (Exclusion.matchesAny exclusions) [] content).map (pathOf directory) := by
    rw [Store.find?] at here
    rw [files]
    cases led : store.place directory true with
    | error => simp [led] at here
    | ok base =>
      rw [led] at here
      simp only at here ⊢
      rw [here]
      -- The tree that stands there is the same, but for where it stands.
      show filesIn store _ directory base replica = _
      rw [filesIn_eq_map, placesIn_of_sameTree same]
  rw [assets, places, findings, List.filterMap_map, List.map_filterMap]
  refine List.filterMap_congr fun names _ => ?_
  simp [record?, recordAt, Function.comp_def]

/-- What is an asset by its names alone is found in every directory, in the same order and with the same flag. -/
theorem findings_root_sublist {directory : Text} (content : Entry) (filled : directory ≠ []) :
    (findings exclusions root default overrides content ['/']).Sublist
      (findings exclusions root default overrides content directory) := by
  rw [findings, findings, List.filterMap_eq_flatMap_toList, List.filterMap_eq_flatMap_toList]
  have paired : List.SublistForall₂ (fun names more => names = more ∧ names ≠ [])
      (placesIn {} (Exclusion.matchesAny exclusions) [] content)
      (placesIn {} (Exclusion.matchesAny exclusions) [] content) :=
    List.sublistForall₂_iff.mpr ⟨_, List.forall₂_same.mpr fun _ found => ⟨rfl, ne_nil_of_mem_placesIn found⟩, .refl _⟩
  refine Text.flatMap_sublist paired fun names more ⟨same, beneath⟩ => ?_
  subst same
  -- A place that has no root of its own adds nothing on the left.
  cases placed : relativePath? root (pathOf ['/'] names) with
  | none => exact List.nil_sublist _
  | some relative => rw [relativePath?_pathOf_of_root placed filled beneath]

/-- In directories that stand alike to the asset root, the same is found. -/
theorem findings_eq_of_standAlike {first second : Text} (content : Entry) (alike : StandAlike root first second)
    (filled : first ≠ []) (alsoFilled : second ≠ []) :
    findings exclusions root default overrides content first =
      findings exclusions root default overrides content second := by
  -- The same names are found, and each gets the same place beneath the asset root.
  refine List.filterMap_congr fun names found => ?_
  rw [relativePath?_pathOf_eq alike filled alsoFilled (ne_nil_of_mem_placesIn found)]

/--
What is found in a tree depends on where the tree stands only through asset roots in the path to it.

At two paths, the assets of the tree are found by their names from there on, each with its flag.
At both, what is an asset by these names alone is found, in the same order.
If the paths stand alike to the asset root, all that is found is the same.
-/
theorem assets_relocated {store other : Store} {first second : Text} {content replica : Entry}
    (here : store.find? first = some content) (there : other.find? second = some replica)
    (same : SameTree content replica) :
    let found := findings exclusions root default overrides content
    assets store exclusions root default overrides first = (found first).map (recordAt first) ∧
      assets other exclusions root default overrides second = (found second).map (recordAt second) ∧
      (found ['/']).Sublist (found first) ∧ (found ['/']).Sublist (found second) ∧
      (StandAlike root first second → found first = found second) := by
  -- Both listings are the findings of the one tree, and the rest is about findings alone.
  intro found
  have filled := ne_nil_of_find? here
  have alsoFilled := ne_nil_of_find? there
  refine ⟨assets_eq_map_findings exclusions root default overrides here (.refl same.distinct same.solid),
    assets_eq_map_findings exclusions root default overrides there same, ?_, ?_, ?_⟩
  · exact findings_root_sublist exclusions root default overrides content filled
  · exact findings_root_sublist exclusions root default overrides content alsoFilled
  · exact fun alike => findings_eq_of_standAlike exclusions root default overrides content alike filled alsoFilled

end Findings

/-- A file that is no asset by its name alone is one in a directory that lies beneath an asset root. -/
theorem not_assets_relocated :
    let content : Entry := .directory ['q'] [.file ['a'] []]
    let replica : Entry := .directory ['p'] [.file ['a'] []]
    let store : Store := ⟨.directory [] [content, .directory ['w'] [replica]]⟩
    store.find? ['/', 'q'] = some content ∧ store.find? ['/', 'w', '/', 'p'] = some replica ∧
      ¬ ∃ found : List (Place × Bool),
        assets store [] ['w'] true [] ['/', 'q'] = found.map (recordAt ['/', 'q']) ∧
        assets store [] ['w'] true [] ['/', 'w', '/', 'p'] = found.map (recordAt ['/', 'w', '/', 'p']) := by
  intro content replica store
  refine ⟨rfl, rfl, ?_⟩
  -- The first place has no assets, so none of them could be told for the second one.
  rintro ⟨found, nothing, something⟩
  have none : assets store [] ['w'] true [] ['/', 'q'] = [] := by decide +kernel
  have one : assets store [] ['w'] true [] ['/', 'w', '/', 'p'] = [⟨['/', 'w', '/', 'p', '/', 'a'], true⟩] := by
    decide +kernel
  rw [none, eq_comm, List.map_eq_nil_iff] at nothing
  rw [one, nothing] at something
  cases something

/-- In two directories outside of all asset roots, an asset of a tree is found at the same place in it. -/
theorem assets_relocated_outside :
    let content : Entry := .directory ['q'] [.directory ['w'] [.file ['a'] []]]
    let store : Store := ⟨.directory [] [content, .directory ['p'] [content]]⟩
    assets store [] ['w'] true [] ['/', 'q'] = [⟨"/q/w/a".toList, true⟩] ∧
      assets store [] ['w'] true [] ['/', 'p', '/', 'q'] = [⟨"/p/q/w/a".toList, true⟩] ∧
      findings [] ['w'] true [] content ['/', 'q'] = findings [] ['w'] true [] content ['/', 'p', '/', 'q'] := by
  intro content store
  -- Neither the shape of the tree nor its names leave anything to decide by hand but one entry a level.
  have solid : content.Solid := by
    refine .directory _ fun child member => ?_
    obtain rfl := List.mem_singleton.mp member
    refine .directory _ fun child member => ?_
    obtain rfl := List.mem_singleton.mp member
    exact .file _ _
  have distinct : content.Distinct := by
    refine .directory (by decide) fun child member => ?_
    obtain rfl := List.mem_singleton.mp member
    refine .directory (by decide) fun child member => ?_
    obtain rfl := List.mem_singleton.mp member
    exact .file _ _
  have here : store.find? ['/', 'q'] = some content := rfl
  have there : store.find? ['/', 'p', '/', 'q'] = some content := rfl
  -- Neither of the two paths has an asset root in it.
  have alike : StandAlike ['w'] ['/', 'q'] ['/', 'p', '/', 'q'] :=
    ⟨by decide +kernel, fun several => absurd several (by decide)⟩
  refine ⟨by decide +kernel, by decide +kernel, ?_⟩
  exact (assets_relocated [] ['w'] true [] here there (.refl distinct solid)).2.2.2.2 alike

end Discovery

end AssetCatalog
