import AssetCatalog.Proofs.Asset.Route
import AssetCatalog.Proofs.Discovery.Places
import AssetCatalog.Proofs.Store.Document
import Mathlib.Data.List.Perm.Subperm

/-! What is found in a store into which a file was written: what was found before, and at most that file. -/

namespace AssetCatalog.Discovery

open Asset (Route routes)
open Store (Entry Place Stored)
open Store.Entry (Grows Walks follow_eq_ok_iff)

variable {before after store : Store} {exclusions : List Exclusion} {directory : Text} {base place goal below : Place}
  {entry old new : Entry} {bytes : Bytes}

section Routes

variable {rootDirectory : Text} {default : Bool} {overrides : List (Text × Bool)}

/-- The directory at a path is searched from its place on. -/
theorem files_eq_map (exclusions : List Exclusion) (isThere : store.isDirectory directory = true) :
    ∃ base entry, store.place directory true = .ok base ∧ store.root.at? base = some entry ∧
      files store exclusions directory =
        (placesIn store (Exclusion.matchesAny exclusions) base entry).map (pathOf directory) := by
  -- That there is a directory says that the path leads to a place, and that something is there.
  rw [Store.isDirectory, Store.find?] at isThere
  cases led : store.place directory true with
  | error => simp [led] at isThere
  | ok base =>
    cases found : store.root.at? base with
    | none => simp [led, found] at isThere
    | some entry => exact ⟨base, entry, rfl, found, by simp [files, led, found, filesIn_eq_map]⟩

/-- The route of what lies some names beneath a directory, where it is an asset. -/
def routeAt? (rootDirectory : Text) (default : Bool) (overrides : List (Text × Bool)) (directory : Text)
    (below : Place) : Option Route :=
  (record? rootDirectory default overrides (pathOf directory below)).bind (Route.ofRecord? rootDirectory)

/-- The routes of assets are those of the places that are found. -/
theorem routes_assets_eq_filterMap {places : List Place}
    (found : files store exclusions directory = places.map (pathOf directory)) :
    routes rootDirectory (assets store exclusions rootDirectory default overrides directory) =
      places.filterMap (routeAt? rootDirectory default overrides directory) := by
  -- The routes go over the files one by one, and the files over the places.
  rw [routes, assets, found, List.filterMap_filterMap, List.filterMap_map]
  rfl

/-- Whether a place is that of an asset depends on its path alone. -/
theorem isSome_routeAt? :
    (routeAt? rootDirectory default overrides directory below).isSome =
      (Route.ofRecord? rootDirectory { source := pathOf directory below }).isSome := by
  -- A path that lies elsewhere has neither a record nor a route.
  rw [routeAt?, record?]
  cases placed : Asset.relativePath? rootDirectory (pathOf directory below) with
  | none => simp [Route.ofRecord?, placed]
  | some relative =>
    simp only [Option.map_some, Option.bind_some, Route.ofRecord?, placed]
    split <;> rfl

end Routes

section Growth

/-- What leads to a directory still does after the tree has grown. -/
theorem leadsToDirectory_of_grows (grown : Grows before.root after.root)
    (leads : leadsToDirectory before place entry = true) : leadsToDirectory after place entry = true := by
  -- Only a link asks the tree, and the way from it is one still.
  cases entry with
  | file | directory => exact leads
  | link name target =>
    rw [leadsToDirectory] at leads ⊢
    cases ended : Store.follow before.root true Store.linkLimit place [name] with
    | error => simp [ended] at leads
    | ok goal =>
      rw [follow_eq_ok_iff.mpr ((follow_eq_ok_iff.mp ended).grow grown)]
      exact grown.isDirectory (by simpa [ended] using leads)

/-- No link beneath a directory leads to a directory that did not do so before. -/
def LinksStay (directory : Text) (before after : Store) : Prop :=
  ∀ {base below : Place} {name target : Text}, before.place directory true = .ok base →
    before.root.at? (base ++ below) = some (.link name target) →
      leadsToDirectory after (base ++ below.dropLast) (.link name target) = true →
        leadsToDirectory before (base ++ below.dropLast) (.link name target) = true

/-- A file beneath a directory is new, and is found there as an asset. -/
def FoundAnew (exclusions : List Exclusion) (rootDirectory directory path : Text) (before after : Store) : Prop :=
  ∃ base below, before.place directory true = .ok base ∧ after.place path true = .ok (base ++ below) ∧
    before.root.at? (base ++ below) = none ∧ (∀ name ∈ below, Exclusion.matchesAny exclusions name = false) ∧
    (Route.ofRecord? rootDirectory { source := pathOf directory below }).isSome = true

variable {skips : Text → Bool} {workingDirectory path : Text}

/-- What stands some names beneath a directory is found from the root by way of that directory. -/
theorem at?_root_append (found : store.root.at? base = some entry) :
    store.root.at? (base ++ below) = entry.at? below := by
  rw [Entry.at?_append, found, Option.bind_some]

/-- A file leads to no directory. -/
theorem not_leads_of_isFile {found : Entry} (file : found.isFile = true) :
    leadsToDirectory store place found = false := by
  -- Of the kinds of entries only links and directories may lead to one.
  cases found with
  | file => rfl
  | link | directory => cases file

/-- What was seen is seen still. -/
theorem Seen.grow (seen : Seen before skips base old below) (grown : Grows before.root after.root)
    (led : before.place directory true = .ok base) (stay : LinksStay directory before after)
    (first : before.root.at? base = some old) (last : after.root.at? base = some new) :
    Seen after skips base new below := by
  -- A file is still a file, and a link is the same one.
  obtain ⟨beneath, kept, found, there, leads⟩ := seen
  rw [← at?_root_append first] at there
  obtain ⟨now, here, same⟩ := Option.map_eq_some_iff.mp (grown.kept there)
  refine ⟨beneath, kept, now, by rw [← at?_root_append last, here], ?_⟩
  cases found with
  | directory => simp [leadsToDirectory] at leads
  | file name content => exact not_leads_of_isFile (by rw [← Entry.isFile_kind, same]; rfl)
  | link name target =>
    obtain rfl : now = .link name target := Option.some.inj (here.symm.trans (grown.link there))
    rw [← Bool.not_eq_true] at leads ⊢
    exact fun leadsNow => leads (stay led there leadsNow)

/-- What is seen was seen before, or is the file. -/
theorem Seen.of_stored (seen : Seen after skips base new below)
    (stored : Stored workingDirectory path bytes before after goal)
    (first : before.root.at? base = some old) (last : after.root.at? base = some new) :
    Seen before skips base old below ∨ base ++ below = goal ∧ before.root.at? goal = none := by
  -- At its own place the file is new or took the place of a file, and elsewhere only directories are new.
  obtain ⟨beneath, kept, found, there, leads⟩ := seen
  rw [← at?_root_append last] at there
  by_cases here : base ++ below = goal
  · cases was : before.root.at? goal with
    | none => exact .inr ⟨here, rfl⟩
    | some other =>
      rw [← here, at?_root_append first] at was
      have file := stored.replaced (by rw [← here, at?_root_append first, was])
      exact .inl ⟨beneath, kept, other, was, not_leads_of_isFile file⟩
  · obtain same | new := stored.others here
    · -- What shows the same is the same, as far as it matters here.
      rw [there, Option.map_some] at same
      obtain ⟨other, was, same⟩ := Option.map_eq_some_iff.mp same.symm
      -- What is seen is a file or a link, and the two are kept by their looks.
      refine .inl ⟨beneath, kept, other, by rw [← at?_root_append first, was], ?_⟩
      cases found with
      | directory => simp [leadsToDirectory] at leads
      | file name content =>
        refine not_leads_of_isFile ?_
        rw [← Entry.isFile_kind, ← Entry.kind_face, same]
        rfl
      | link name target =>
        obtain rfl : other = .link name target := by
          cases other with
          | file | directory => simp [Entry.face] at same
          | link => exact same
        rw [← Bool.not_eq_true] at leads ⊢
        exact fun led => leads (leadsToDirectory_of_grows stored.grown led)
    · have directory := new.made
      rw [there, Option.any_some, isDirectory_of_not_leads leads] at directory
      cases directory

/-- The file is seen, where no name on the way is to skip. -/
theorem seen_of_stored (stored : Stored workingDirectory path bytes before after (base ++ below))
    (beneath : below ≠ []) (kept : ∀ name ∈ below, skips name = false) (last : after.root.at? base = some new) :
    Seen after skips base new below := by
  -- What is at the place from the root on is at the rest of it from the base on.
  obtain ⟨name, held⟩ := stored.held
  exact ⟨beneath, kept, _, by rw [← at?_root_append last, held], rfl⟩

end Growth

section Comparison

variable {workingDirectory path rootDirectory : Text} {default : Bool} {overrides : List (Text × Bool)}
  {first last : List Place}

/-- A file at a place is new and no name on the way from a directory is to skip. -/
structure Fresh (exclusions : List Exclusion) (before : Store) (base goal below : Place) : Prop where
  /-- The file lies beneath the directory. -/
  there : base ++ below = goal
  /-- Nothing was where it is. -/
  free : before.root.at? goal = none
  /-- No name on the way is to skip. -/
  kept : ∀ name ∈ below, Exclusion.matchesAny exclusions name = false

/-- The places of the files that are found before and after a file is written. -/
structure Compared (exclusions : List Exclusion) (directory : Text) (before after : Store) (base goal : Place)
    (first last : List Place) : Prop where
  /-- The directory has its place. -/
  led : before.place directory true = .ok base
  /-- What was found before was there. -/
  filled : ∀ below ∈ first, (before.root.at? (base ++ below)).isSome = true
  /-- The files found before. -/
  found : files before exclusions directory = first.map (pathOf directory)
  /-- The files found afterwards. -/
  again : files after exclusions directory = last.map (pathOf directory)
  /-- The files were found in order. -/
  ordered : first.Pairwise Precedes
  /-- The files are found in order. -/
  reordered : last.Pairwise Precedes
  /-- The files found are those found before, and the one that was written if it is new. -/
  members : ∀ below, below ∈ last ↔ below ∈ first ∨ Fresh exclusions before base goal below

/-- What is found after a file was written can be compared with what was found before. -/
theorem exists_compared (stored : Stored workingDirectory path bytes before after goal)
    (distinct : before.root.Distinct) (isThere : before.isDirectory directory = true)
    (stay : LinksStay directory before after) :
    ∃ base first last, Compared exclusions directory before after base goal first last := by
  -- The directory is found at the same place before and after, and the names in both trees are distinct.
  obtain ⟨base, old, led, was, found⟩ := files_eq_map exclusions isThere
  obtain ⟨_, new, ledAgain, is, again⟩ := files_eq_map exclusions (Store.isDirectory_of_grows stored.grown isThere)
  obtain rfl := Except.ok.inj (ledAgain.symm.trans (Store.place_of_grows stored.grown led))
  have oldDistinct := distinct.at? was
  have newDistinct := (stored.grown.distinct distinct).at? is
  refine ⟨_, _, _, led, fun below member => ?_, found, again, pairwise_placesIn oldDistinct _,
    pairwise_placesIn newDistinct _, fun below => ?_⟩
  · obtain ⟨other, there, -⟩ := ((mem_placesIn_iff_seen below oldDistinct).mp member).there
    rw [at?_root_append was, there, Option.isSome_some]
  rw [mem_placesIn_iff_seen below oldDistinct, mem_placesIn_iff_seen below newDistinct]
  constructor
  · -- What is seen now was seen before, unless it is the file that was written.
    intro seen
    refine (seen.of_stored stored was is).imp_right fun ⟨there, free⟩ => ⟨there, free, seen.kept⟩
  · rintro (seen | ⟨rfl, free, kept⟩)
    · exact seen.grow stored.grown led stay was is
    · refine seen_of_stored stored ?_ kept is
      rintro rfl
      simp [was] at free

/-- Places without a route do not matter for the routes. -/
theorem filterMap_eq_filterMap_filter {α β : Type} (image? : α → Option β) (all : List α) :
    all.filterMap image? = (all.filter fun one => (image? one).isSome).filterMap image? := by
  -- What is left out has no image.
  rw [List.filterMap_filter]
  congr 1
  funext one
  cases image? one <;> rfl

/-- Without a new asset, the same routes are found. -/
theorem routes_eq_of_not_foundAnew (compared : Compared exclusions directory before after base goal first last)
    (led : after.place path true = .ok goal)
    (old : ¬ FoundAnew exclusions rootDirectory directory path before after) :
    routes rootDirectory (assets after exclusions rootDirectory default overrides directory) =
      routes rootDirectory (assets before exclusions rootDirectory default overrides directory) := by
  rw [routes_assets_eq_filterMap compared.found, routes_assets_eq_filterMap compared.again,
    filterMap_eq_filterMap_filter _ first, filterMap_eq_filterMap_filter _ last]
  congr 1
  refine eq_of_pairwise_precedes (compared.reordered.filter _) (compared.ordered.filter _) fun below => ?_
  -- Of the places with a route none is new.
  simp only [List.mem_filter, compared.members]
  refine and_congr_left fun routed => or_iff_left ?_
  rintro ⟨rfl, free, kept⟩
  exact old ⟨base, below, compared.led, led, free, kept, by rwa [← isSome_routeAt?]⟩

/-- With a new asset, one more route is found. -/
theorem length_routes_lt_of_foundAnew (compared : Compared exclusions directory before after base goal first last)
    (led : after.place path true = .ok goal)
    (new : FoundAnew exclusions rootDirectory directory path before after) :
    (routes rootDirectory (assets before exclusions rootDirectory default overrides directory)).length <
      (routes rootDirectory (assets after exclusions rootDirectory default overrides directory)).length := by
  -- Both runs stand on one base, and the new place is the one beneath it that the path leads to.
  obtain ⟨_, below, ledBase, ledGoal, free, kept, routed⟩ := new
  obtain rfl := Except.ok.inj (compared.led.symm.trans ledBase)
  obtain rfl := Except.ok.inj (led.symm.trans ledGoal)
  rw [routes_assets_eq_filterMap compared.found, routes_assets_eq_filterMap compared.again,
    List.length_filterMap_eq_countP, List.length_filterMap_eq_countP]
  -- All places found before are found again, and the new one besides.
  have absent : below ∉ first := fun member => by simpa [free] using compared.filled below member
  have part : (below :: first).Subperm last := by
    refine List.subperm_of_subset (List.nodup_cons.mpr ⟨absent, nodup_of_pairwise_precedes compared.ordered⟩) ?_
    intro other member
    rcases List.mem_cons.mp member with rfl | found
    · exact (compared.members _).mpr (.inr ⟨rfl, free, kept⟩)
    · exact (compared.members _).mpr (.inl found)
  -- The new place has a route, so that there is one more than before.
  have more := part.countP_le fun below => (routeAt? rootDirectory default overrides directory below).isSome
  rw [List.countP_cons_of_pos (by rwa [isSome_routeAt?])] at more
  omega

end Comparison

end AssetCatalog.Discovery
