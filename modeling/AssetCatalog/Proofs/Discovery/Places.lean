import AssetCatalog.Discovery
import AssetCatalog.Proofs.Store.Tree
import AssetCatalog.Proofs.Text.Sorting

/-! The files that are found beneath a directory are those that are there, each once and in a fixed order. -/

namespace AssetCatalog.Discovery

open Store (Entry Place)

variable {store : Store} {skips : Text → Bool} {place : Place} {entry : Entry} {name : Text}
  {entries : List Entry}

section Places

mutual

/-- The places of the files beneath a directory, as seen from it, in the order in which they are found. -/
def placesIn (store : Store) (skips : Text → Bool) (place : Place) : Entry → List Place
  | .directory _ entries =>
    (fileNames store skips place entries).map (fun name => [name])
      ++ (Text.sortBy Prod.fst (placesInEach store skips place entries)).flatMap Prod.snd
  | _ => []

/-- The names of directories with the places of the files beneath them, as seen from around them. -/
def placesInEach (store : Store) (skips : Text → Bool) (place : Place) : List Entry → List (Text × List Place)
  | [] => []
  | .directory name entries :: rest =>
    if skips name then placesInEach store skips place rest
    else
      (name, (placesIn store skips (place ++ [name]) (.directory name entries)).map (name :: ·))
        :: placesInEach store skips place rest
  | _ :: rest => placesInEach store skips place rest

end

/-- The path of what lies some names beneath a directory. -/
def pathOf (directory : Text) (names : Place) : Text :=
  names.foldl Path.join directory

mutual

/-- The files found are at the places found. -/
theorem filesIn_eq_map (path : Text) (place : Place) : ∀ entry : Entry,
    filesIn store skips path place entry = (placesIn store skips place entry).map (pathOf path)
  | .file _ _ => rfl
  | .link _ _ => rfl
  | .directory _ entries => by
    -- Pairs are sorted by their names, so it does not matter whether places or paths come with these.
    rw [filesIn, placesIn, filesInEach_eq_map path place entries, Text.sortBy_map]
    simp [Function.comp_def, pathOf, List.flatMap_map, List.map_flatMap]

/-- The files found in each directory are at the places found in it. -/
theorem filesInEach_eq_map (path : Text) (place : Place) : ∀ entries : List Entry,
    filesInEach store skips path place entries =
      (placesInEach store skips place entries).map fun pair => (pair.1, pair.2.map (pathOf path))
  | [] => rfl
  | .file _ _ :: rest => filesInEach_eq_map path place rest
  | .link _ _ :: rest => filesInEach_eq_map path place rest
  | .directory name entries :: rest => by
    rw [filesInEach, placesInEach]
    split
    · exact filesInEach_eq_map path place rest
    · rw [filesIn_eq_map (Path.join path name) (place ++ [name]) (.directory name entries),
        filesInEach_eq_map path place rest]
      simp [Function.comp_def, pathOf]

end

end Places

section Members

/-- Places come with the name of a directory that is not to skip. -/
theorem mem_placesInEach_iff {pair : Text × List Place} :
    pair ∈ placesInEach store skips place entries ↔
      ∃ child ∈ entries, child.isDirectory = true ∧ skips child.name = false ∧
        pair = (child.name, (placesIn store skips (place ++ [child.name]) child).map (child.name :: ·)) := by
  -- Files and links are passed over, and so are directories to skip.
  induction entries with
  | nil => simp [placesInEach]
  | cons child rest ih =>
    cases child with
    | file | link => simpa [placesInEach, Entry.isDirectory] using ih
    | directory name entries =>
      rw [placesInEach]
      by_cases skipped : skips name = true
      · simpa [skipped, Entry.isDirectory, Entry.name] using ih
      · simp [skipped, Entry.isDirectory, Entry.name, ih]

/-- Names of files are those of entries that lead to no directory and are not to skip. -/
theorem mem_fileNames_iff :
    name ∈ fileNames store skips place entries ↔
      ∃ child ∈ entries, leadsToDirectory store place child = false ∧ skips child.name = false ∧
        child.name = name := by
  -- Sorting changes the order only.
  rw [fileNames, Text.sorted, (Text.sortBy_perm id _).mem_iff]
  simp [and_assoc]

/-- A place in a directory is that of a file there, or lies in a directory there. -/
theorem mem_placesIn_iff {below : Place} :
    below ∈ placesIn store skips place entry ↔
      entry.isDirectory = true ∧
        ((∃ child ∈ entry.entries, leadsToDirectory store place child = false ∧ skips child.name = false ∧
            below = [child.name]) ∨
          ∃ child ∈ entry.entries, child.isDirectory = true ∧ skips child.name = false ∧
            ∃ rest ∈ placesIn store skips (place ++ [child.name]) child, below = child.name :: rest) := by
  -- The names of files come alone, those of directories before what lies in these.
  cases entry with
  | file | link => simp [placesIn, Entry.isDirectory]
  | directory own entries =>
    simp only [placesIn, List.mem_append, List.mem_map, mem_fileNames_iff, List.mem_flatMap,
      (Text.sortBy_perm Prod.fst _).mem_iff, mem_placesInEach_iff, Entry.isDirectory, Entry.entries, true_and]
    constructor
    · rintro (⟨_, ⟨child, member, leads, skipped, rfl⟩, rfl⟩ | ⟨_, ⟨child, member, directory, skipped, rfl⟩, inside⟩)
      · exact .inl ⟨child, member, leads, skipped, rfl⟩
      · obtain ⟨rest, found, rfl⟩ := List.mem_map.mp inside
        exact .inr ⟨child, member, directory, skipped, rest, found, rfl⟩
    · rintro (⟨child, member, leads, skipped, rfl⟩ | ⟨child, member, directory, skipped, rest, found, rfl⟩)
      · exact .inl ⟨_, ⟨child, member, leads, skipped, rfl⟩, rfl⟩
      · exact .inr ⟨_, ⟨child, member, directory, skipped, rfl⟩, List.mem_map_of_mem found⟩

/-- What is found lies beneath the directory. -/
theorem ne_nil_of_mem_placesIn {below : Place} (found : below ∈ placesIn store skips place entry) :
    below ≠ [] := by
  -- A place begins with the name of an entry of the directory, be it a file or on the way.
  obtain ⟨-, ⟨child, -, -, -, rfl⟩ | ⟨child, -, -, -, rest, -, rfl⟩⟩ := mem_placesIn_iff.mp found
  · exact List.cons_ne_nil _ _
  · exact List.cons_ne_nil _ _

/-- What is seen some names beneath a directory: something that leads to no directory, behind no name to skip. -/
structure Seen (store : Store) (skips : Text → Bool) (place : Place) (entry : Entry) (below : Place) : Prop where
  /-- It lies beneath the directory. -/
  beneath : below ≠ []
  /-- None of the names is to skip. -/
  kept : ∀ name ∈ below, skips name = false
  /-- There is something, and it leads to no directory. -/
  there : ∃ found, entry.at? below = some found ∧
    leadsToDirectory store (place ++ below.dropLast) found = false

/-- A directory leads to one. -/
theorem isDirectory_of_not_leads {found : Entry} (leads : leadsToDirectory store place found = false) :
    found.isDirectory = false := by
  cases found with
  | file | link => rfl
  | directory => simp [leadsToDirectory] at leads

/-- What is seen behind a name is what the name is that of, or seen beneath that. -/
theorem seen_cons_iff {rest : Place} : Seen store skips place entry (name :: rest) ↔
    skips name = false ∧ ∃ child, entry.child? name = some child ∧
      (rest = [] ∧ leadsToDirectory store place child = false ∨
        Seen store skips (place ++ [name]) child rest) := by
  -- Either the way is over behind the name, or it goes on from the child.
  cases rest with
  | nil =>
    constructor
    · rintro ⟨-, kept, found, there, leads⟩
      obtain ⟨child, named, rfl⟩ : ∃ child, entry.child? name = some child ∧ child = found := by
        simpa [Entry.at?, Option.bind_eq_some_iff] using there
      exact ⟨by simpa using kept, child, named, .inl ⟨rfl, by simpa using leads⟩⟩
    · rintro ⟨skipped, child, named, ⟨-, leads⟩ | seen⟩
      · exact ⟨by simp, by simpa using skipped, child, by simp [Entry.at?, named], by simpa using leads⟩
      · exact absurd rfl seen.beneath
  | cons next rest =>
    -- Each condition on the whole way is one on its first name and one on the rest.
    constructor
    · rintro ⟨-, kept, found, there, leads⟩
      rw [Entry.at?, Option.bind_eq_some_iff] at there
      obtain ⟨child, named, inside⟩ := there
      obtain ⟨skipped, further⟩ := List.forall_mem_cons.mp kept
      exact ⟨skipped, child, named, .inr ⟨by simp, further, found, inside, by simpa using leads⟩⟩
    · rintro ⟨skipped, child, named, ⟨none, -⟩ | ⟨-, further, found, inside, leads⟩⟩
      · cases none
      · refine ⟨by simp, List.forall_mem_cons.mpr ⟨skipped, further⟩, found, ?_, by simpa using leads⟩
        rw [Entry.at?, named, Option.bind_some, inside]

/-- Where the names in each directory are distinct, just what is seen is found. -/
theorem mem_placesIn_iff_seen (below : Place) : ∀ {place : Place} {entry : Entry}, entry.Distinct →
    (below ∈ placesIn store skips place entry ↔ Seen store skips place entry below) := by
  -- The names on the way are gone one after the other, and each one is that of a single entry.
  induction below with
  | nil =>
    intro place entry _
    exact ⟨fun found => absurd rfl (ne_nil_of_mem_placesIn found), fun seen => absurd rfl seen.beneath⟩
  | cons name rest ih =>
    intro place entry distinct
    rw [mem_placesIn_iff, seen_cons_iff]
    constructor
    · rintro ⟨-, ⟨child, member, leads, skipped, same⟩ | ⟨child, member, -, skipped, _, found, same⟩⟩
      · obtain ⟨rfl, rfl⟩ := List.cons.inj same
        exact ⟨skipped, child, distinct.child?_eq_some_iff.mpr member, .inl ⟨rfl, leads⟩⟩
      · obtain ⟨rfl, rfl⟩ := List.cons.inj same
        have seen := (ih (distinct.deeper member)).mp found
        exact ⟨skipped, child, distinct.child?_eq_some_iff.mpr member, .inr seen⟩
    · rintro ⟨skipped, child, named, inside⟩
      obtain rfl := Entry.name_of_child? named
      have member := distinct.child?_eq_some_iff.mp named
      -- A name is that of a child only in a directory.
      refine ⟨?_, ?_⟩
      · cases kind : entry.isDirectory with
        | true => rfl
        | false => simp [Entry.child?_of_not_isDirectory kind] at named
      · rcases inside with ⟨rfl, leads⟩ | seen
        · exact .inl ⟨child, member, leads, skipped, rfl⟩
        · have found := (ih (distinct.deeper member)).mpr seen
          have directory := (mem_placesIn_iff.mp found).1
          exact .inr ⟨child, member, directory, skipped, rest, found, rfl⟩

end Members

section Order

/-- The order of places: the files of a directory by name, then what lies in the directories in it, by name. -/
def Precedes : Place → Place → Prop
  | [first], [second] => first < second
  | [_], _ :: _ :: _ => True
  | first :: next :: rest, second :: further :: others =>
    first < second ∨ first = second ∧ Precedes (next :: rest) (further :: others)
  | _, _ => False

/-- Of two places, one only precedes the other. -/
theorem Precedes.asymm {first second : Place} (before : Precedes first second) : ¬ Precedes second first := by
  -- case4| No other places are in order.
  -- The first names at which two places differ decide, or that one of the places ends.
  induction first, second using Precedes.induct with
  | case1 a b => exact lt_asymm before
  | case2 a b c rest => exact fun after => after
  | case3 a b rest c d others ih =>
    rintro (after | ⟨rfl, after⟩)
    · rcases before with before | ⟨rfl, -⟩
      · exact lt_asymm before after
      · exact lt_irrefl _ after
    · rcases before with before | ⟨-, before⟩
      · exact lt_irrefl _ before
      · exact ih before after
  | case4 first second files other both =>
    rw [Precedes] at before
    · exact before.elim
    all_goals assumption

/-- Places behind the same name are in order as they are without it. -/
theorem precedes_cons_iff {first second : Place} (filled : first ≠ []) (other : second ≠ []) :
    Precedes (name :: first) (name :: second) ↔ Precedes first second := by
  -- With something behind the same name on both sides only the last case of the order applies.
  obtain ⟨a, first, rfl⟩ := List.exists_cons_of_ne_nil filled
  obtain ⟨b, second, rfl⟩ := List.exists_cons_of_ne_nil other
  simp [Precedes]

/-- Each directory comes once, if each name does. -/
theorem nodup_fst_placesInEach (names : (entries.map Entry.name).Nodup) :
    ((placesInEach store skips place entries).map Prod.fst).Nodup := by
  -- The names of directories that are not skipped are some of the names, in the same order.
  have part : ((placesInEach store skips place entries).map Prod.fst).Sublist (entries.map Entry.name) := by
    clear names
    induction entries with
    | nil => exact .slnil
    | cons child rest ih =>
      cases child with
      | file | link => exact ih.cons _
      | directory name inside =>
        rw [placesInEach]
        -- A directory that is to skip gives no name.
        split
        · exact ih.cons _
        · exact ih.cons_cons _
  exact names.sublist part

/-- Names of files are in order. -/
theorem pairwise_fileNames (names : (entries.map Entry.name).Nodup) :
    (fileNames store skips place entries).Pairwise (· < ·) := by
  -- Distinct names that are sorted ascend strictly.
  refine @Text.sortBy_pairwise_lt _ id _ ?_
  rw [List.map_id]
  exact names.sublist (List.filter_sublist.map Entry.name)

/-- Places are found in order, where the names in each directory are distinct. -/
theorem pairwise_placesIn (distinct : entry.Distinct) : ∀ place,
    (placesIn store skips place entry).Pairwise Precedes := by
  induction distinct with
  | file | link => exact fun _ => .nil
  | @directory own entries names deeper ih =>
    intro place
    -- A pair stands for a directory, and its places come with the name of that.
    have inside : ∀ pair ∈ Text.sortBy Prod.fst (placesInEach store skips place entries),
        ∀ below ∈ pair.2, ∃ rest, rest ≠ [] ∧ below = pair.1 :: rest := by
      intro pair member below found
      obtain ⟨child, -, -, -, rfl⟩ := mem_placesInEach_iff.mp ((Text.sortBy_perm Prod.fst _).mem_iff.mp member)
      obtain ⟨rest, there, rfl⟩ := List.mem_map.mp found
      exact ⟨rest, ne_nil_of_mem_placesIn there, rfl⟩
    -- In order are the files, what lies in one directory, the directories, and each file before these.
    rw [placesIn, List.pairwise_append]
    refine ⟨?_, List.pairwise_flatMap.mpr ⟨?_, ?_⟩, ?_⟩
    · exact List.pairwise_map.mpr (pairwise_fileNames names)
    · intro pair member
      obtain ⟨child, there, -, -, rfl⟩ := mem_placesInEach_iff.mp ((Text.sortBy_perm Prod.fst _).mem_iff.mp member)
      refine List.pairwise_map.mpr ((ih child there _).imp_of_mem fun first second before => ?_)
      exact (precedes_cons_iff (ne_nil_of_mem_placesIn first) (ne_nil_of_mem_placesIn second)).mpr before
    · refine (Text.sortBy_pairwise_lt (nodup_fst_placesInEach names)).imp_of_mem ?_
      intro first second inFirst inSecond before below found other alsoFound
      obtain ⟨rest, filled, rfl⟩ := inside first inFirst below found
      obtain ⟨others, alsoFilled, rfl⟩ := inside second inSecond other alsoFound
      obtain ⟨next, rest, rfl⟩ := List.exists_cons_of_ne_nil filled
      obtain ⟨further, others, rfl⟩ := List.exists_cons_of_ne_nil alsoFilled
      exact .inl before
    · intro file member below found
      obtain ⟨name, -, rfl⟩ := List.mem_map.mp member
      obtain ⟨pair, there, found⟩ := List.mem_flatMap.mp found
      obtain ⟨rest, filled, rfl⟩ := inside pair there below found
      obtain ⟨next, rest, rfl⟩ := List.exists_cons_of_ne_nil filled
      trivial

/-- Places in order come once each. -/
theorem nodup_of_pairwise_precedes {places : List Place} (ordered : places.Pairwise Precedes) : places.Nodup := by
  -- No place precedes itself.
  refine ordered.imp fun before same => ?_
  subst same
  exact before.asymm before

/-- Places in order are the same if they have the same members. -/
theorem eq_of_pairwise_precedes {first second : List Place} (ordered : first.Pairwise Precedes)
    (alsoOrdered : second.Pairwise Precedes) (same : ∀ below, below ∈ first ↔ below ∈ second) : first = second := by
  -- They are the same places in some order, and only one order is possible.
  refine List.Perm.eq_of_pairwise (fun a b _ _ before after => absurd after before.asymm) ordered alsoOrdered ?_
  exact (List.perm_ext_iff_of_nodup (nodup_of_pairwise_precedes ordered)
    (nodup_of_pairwise_precedes alsoOrdered)).mpr same

end Order

end AssetCatalog.Discovery
