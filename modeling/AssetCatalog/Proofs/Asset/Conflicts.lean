import AssetCatalog.Generation
import AssetCatalog.Proofs.Asset.Files
import AssetCatalog.Proofs.Asset.Opening
import Mathlib.Data.List.Flatten

/-! What a blocked run reports: every file whose key is claimed more than once, and the directories beside it. -/

namespace AssetCatalog

namespace Asset

/-- What is picked for distinct keys, one key after the other, is what has one of the keys. -/
theorem flatMap_filter_perm {α κ : Type} [DecidableEq κ] (key : α → κ) {keys : List κ} (distinct : keys.Nodup)
    (items : List α) {kept : α → Bool} (keyed : ∀ item ∈ items, kept item = true ↔ key item ∈ keys) :
    (keys.flatMap fun picked => items.filter fun item => key item = picked).Perm (items.filter kept) := by
  -- Key by key: the items with the first key are set aside from those with one of the others.
  induction keys generalizing items kept with
  | nil =>
    have none : items.filter kept = [] := List.filter_eq_nil_iff.mpr fun item member => by simp [keyed item member]
    simp [none]
  | cons first rest ih =>
    obtain ⟨fresh, distinct⟩ := List.nodup_cons.mp distinct
    -- What is kept has the first key, or else it has one of the others.
    have halves := (items.filter kept).filter_append_perm fun item => decide (key item = first)
    rw [List.filter_filter, List.filter_filter] at halves
    refine List.Perm.trans ?_ halves
    rw [List.flatMap_cons]
    refine .append (.of_eq ?_) (ih distinct items ?_)
    · refine List.filter_congr fun item member => ?_
      by_cases here : key item = first <;> simp [here, keyed item member]
    · intro item member
      by_cases here : key item = first <;> simp [here, fresh, keyed item member]

section Claims

/-- The sources of claims one by one, each with the key that it is claimed for. -/
def entries (claims : List Claim) : List (Text × Text) :=
  claims.flatMap fun claim => claim.2.map (claim.1, ·)

/-- The entries with a key are the sources that are claimed for it. -/
theorem filter_entries (claims : List Claim) (key : Text) :
    (entries claims).filter (fun entry => entry.1 = key) = (sourcesFor key claims).map (key, ·) := by
  -- The entries of one claim all have the key of the claim.
  induction claims with
  | nil => rfl
  | cons claim rest ih =>
    rw [entries, List.flatMap_cons, List.filter_append, ← entries, ih, sourcesFor_cons, List.map_append]
    by_cases here : claim.1 = key
    · simp [here, List.filter_map, Function.comp_def]
    · simp [here, List.filter_map, Function.comp_def]

/-- Claims that are some of the gathered ones have the entries with their keys. -/
theorem entries_perm {claims chosen : List Claim} (part : chosen.Sublist (gather claims)) :
    (entries chosen).Perm ((entries claims).filter fun entry => entry.1 ∈ chosen.map Prod.fst) := by
  have distinct := (nodup_gather claims).sublist (part.map Prod.fst)
  refine List.Perm.trans (.of_eq ?_) (flatMap_filter_perm Prod.fst distinct (entries claims) fun _ _ => by simp)
  -- A gathered claim has all that is claimed for its key.
  rw [List.flatMap_map, entries]
  refine List.flatMap_congr fun claim member => ?_
  rw [filter_entries, ← (mem_gather_iff.mp (part.subset member)).1]

/-- A key is claimed more than once exactly if there are two sources for it. -/
theorem mem_keys_collisions_iff {tree : Node} {key : Text} :
    key ∈ (collisions tree).map Prod.fst ↔ 1 < (sourcesFor key (claimsBelow [] tree)).length := by
  rw [collisions, keys_eq_gather]
  -- Only keys with sources are gathered, and where there are two sources there is one.
  constructor
  · intro member
    obtain ⟨claim, kept, rfl⟩ := List.mem_map.mp member
    obtain ⟨gathered, several⟩ := List.mem_filter.mp kept
    rw [← (mem_gather_iff.mp gathered).1]
    exact of_decide_eq_true several
  · intro several
    have claimed : sourcesFor key (claimsBelow [] tree) ≠ [] := List.ne_nil_of_length_pos (by omega)
    exact List.mem_map.mpr ⟨(key, sourcesFor key (claimsBelow [] tree)),
      List.mem_filter.mpr ⟨mem_gather_iff.mpr ⟨rfl, claimed⟩, decide_eq_true several⟩, rfl⟩

end Claims

namespace Place

/-- The dotted key of a place. -/
def key (place : Place) : Text :=
  dotted (place.way Node.name)

/-- Whether a place is that of a directory whose name a file or a sibling takes too. -/
def isShared (place : Place) : Bool :=
  place.node.directory.isSome && (!place.node.sources.isEmpty || 1 < place.siblings.count place.node.name)

/-- How a directory is listed beside files. -/
def listing (place : Place) : Text :=
  place.node.directory.getD [] ++ ['/']

/-- A place claims its key for the sources of its node, behind the directory if that is shared. -/
theorem claim_eq (place : Place) :
    place.claim = (place.key, (if place.isShared then [place.listing] else []) ++ place.node.sources) := by
  -- Only a node with a directory may be shared, and only then is its listing put in front.
  rw [claim, key, isShared, listing, ownSources]
  cases kind : place.node.directory with
  | none => simp
  | some directory => simp only [Option.isSome_some, Bool.true_and, Option.getD_some]; split <;> rfl

end Place

/-- The entries of places are the sources of their nodes, and the shared directories besides. -/
theorem entries_places_perm (places : List Place) :
    (entries (places.map Place.claim)).Perm
      ((places.flatMap fun place => place.node.sources.map (place.key, ·)) ++
        (places.filter Place.isShared).map fun place => (place.key, place.listing)) := by
  -- The directory stands in front of the sources of one place, and is put behind those of all places.
  induction places with
  | nil => exact .rfl
  | cons place rest ih =>
    rw [List.map_cons, entries, List.flatMap_cons, ← entries, place.claim_eq, List.flatMap_cons, List.filter_cons]
    cases place.isShared with
    | false => simpa using ih.append_left _
    | true =>
      simp only [if_true, List.map_append, List.map_cons, List.map_nil, List.cons_append]
      refine (List.Perm.cons _ (ih.append_left _)).trans ?_
      rw [← List.append_assoc]
      exact List.perm_middle.symm

namespace Node

/-- Where siblings share the name of a place, two places have this name and the same key, one behind the other. -/
theorem exists_namesake (node : Node) :
    ∀ {above : List Node} {place : Place}, place ∈ placesBelow above node →
      1 < place.siblings.count place.node.name →
        ∃ first second : Place, [first, second].Sublist (placesBelow above node) ∧
          ∀ other ∈ [first, second], other.siblings = place.siblings ∧ other.node.name = place.node.name ∧
            other.key = place.key := by
  -- The siblings are children of one node, under which the two stand one behind the other.
  induction node using Node.induction with
  | step node ih =>
    intro above place member several
    obtain ⟨child, below, rfl | deeper⟩ := mem_placesBelow_iff.mp member
    · -- The name counts twice among the children of this node, so two of them have it.
      have twice : [child.name, child.name].Sublist (node.children.map name) :=
        List.replicate_sublist_iff.mpr several
      obtain ⟨pair, order, names⟩ := List.sublist_map_iff.mp twice
      obtain ⟨first, second, rfl⟩ := List.length_eq_two.mp (by simpa using (congrArg List.length names).symm)
      simp only [List.map_cons, List.map_nil, List.cons.injEq, and_true] at names
      refine ⟨⟨above, node.children.map name, first⟩, ⟨above, node.children.map name, second⟩, ?_, ?_⟩
      · rw [placesBelow_eq_flatMap]
        refine List.Sublist.trans ?_ (order.flatMap _)
        simp only [List.flatMap_cons, List.flatMap_nil, List.append_nil]
        exact .cons_cons _ (.trans (.cons_cons _ (List.nil_sublist _)) (List.sublist_append_right _ _))
      · simp [Place.key, Place.way, ← names.1, ← names.2]
    · -- What is found below a child is part of what is below the node.
      obtain ⟨first, second, order, same⟩ := ih child below deeper several
      have part := (List.singleton_sublist.mpr below).flatMap fun child =>
        (⟨above, node.children.map name, child⟩ : Place) :: placesBelow (above ++ [child]) child
      rw [List.flatMap_singleton, ← placesBelow_eq_flatMap] at part
      exact ⟨first, second, order.trans ((List.sublist_cons_self _ _).trans part), same⟩

end Node

section Build

variable {className root : Text} {records : List Record}

/-- In the tree of records, the key of a shared directory is claimed more than once. -/
theorem key_mem_collisions_of_isShared {place : Place} (member : place ∈ (build className root records).places)
    (shared : place.isShared = true) : place.key ∈ (collisions (build className root records)).map Prod.fst := by
  rw [mem_keys_collisions_iff, claimsBelow_nil_eq_map]
  cases several : decide (1 < place.siblings.count place.node.name) with
  | false =>
    -- The place alone claims its key for the directory and for a file.
    have both : 1 < place.claim.2.length := by
      have filled : place.node.sources ≠ [] := by
        rw [Place.isShared, several, Bool.or_false, Bool.and_eq_true] at shared
        simpa using shared.2
      have positive := List.length_pos_iff.mpr filled
      simp only [place.claim_eq, shared, if_true, List.length_append, List.length_singleton]
      omega
    have claimed : place.claim ∈ (build className root records).places.map Place.claim :=
      List.mem_map_of_mem member
    have part := (sublist_sourcesFor claimed).length_le
    exact Nat.lt_of_lt_of_le both part
  | true =>
    -- A sibling of the same name claims the same key, and neither of the two claims nothing.
    obtain ⟨first, second, order, same⟩ := Node.exists_namesake _ member (of_decide_eq_true several)
    have claimed : ∀ other ∈ [first, second], other.claim.1 = place.key ∧ 0 < other.claim.2.length := by
      intro other either
      obtain ⟨siblings, name, key⟩ := same other either
      refine ⟨by rw [other.claim_eq, key], List.length_pos_iff.mpr (Node.ownSources_ne_nil ?_ ?_)⟩
      · exact sources_ne_nil_of_mem_places (order.subset either)
      · rw [siblings, name]
        exact of_decide_eq_true several
    have part : (sourcesFor place.key ([first, second].map Place.claim)).length ≤
        (sourcesFor place.key ((build className root records).places.map Place.claim)).length :=
      (((order.map Place.claim).filter _).flatMap _).length_le
    have one := claimed first (by simp)
    have other := claimed second (by simp)
    simp only [List.map_cons, List.map_nil, sourcesFor_cons, sourcesFor_nil, one.1, other.1, if_true,
      List.append_nil, List.length_append] at part
    omega

/-- In the tree of records, the sources of all nodes are those of the routes, each with the key of its node. -/
theorem sources_perm_routes :
    ((build className root records).places.flatMap fun place => place.node.sources.map (place.key, ·)).Perm
      ((routes root records).map fun route => (route.key (build className root records), route.record.source)) := by
  have distinct : ((build className root records).places.map (Place.way Node.key)).Nodup :=
    Node.nodup_ways _ (siblingsDiffer_key_build className root records)
  have covered : ∀ route ∈ routes root records,
      true = true ↔ route.keys ∈ (build className root records).places.map (Place.way Node.key) := by
    intro route known
    obtain ⟨place, member, way⟩ := exists_place_of_route className known
    exact ⟨fun _ => List.mem_map.mpr ⟨place, member, way⟩, fun _ => rfl⟩
  -- The routes can be told apart by the places where they end, as every route has one.
  have reached := (flatMap_filter_perm Route.keys distinct (routes root records) covered).map fun route =>
    (route.key (build className root records), route.record.source)
  rw [List.filter_true, List.flatMap_map, List.map_flatMap] at reached
  refine List.Perm.trans (.of_eq (List.flatMap_congr fun place member => ?_)) reached
  -- A node has the sources of the routes that end there, and these share its key.
  rw [portrait_sources (portrait_of_mem_places member), List.map_map]
  refine List.map_congr_left fun route ends => ?_
  have keys : route.keys = place.way Node.key := of_decide_eq_true (List.mem_filter.mp ends).2
  rw [Function.comp_apply, Route.key, keys, namesAlong_way member, Place.key]

/-- The sources of the keys that are claimed more than once are those of routes, and the shared directories. -/
theorem entries_collisions_perm (className root : Text) (records : List Record) :
    (entries (collisions (build className root records))).Perm
    ((((routes root records).filter fun route =>
        route.key (build className root records) ∈ (collisions (build className root records)).map Prod.fst).map
          fun route => (route.key (build className root records), route.record.source)) ++
      ((build className root records).places.filter Place.isShared).map fun place => (place.key, place.listing)) := by
  -- All entries are those of routes and shared directories, and the collisions are a part of the claims.
  have all := (entries_places_perm (build className root records).places).trans
    (sources_perm_routes.append_right _)
  have part : (collisions (build className root records)).Sublist
      (gather ((build className root records).places.map Place.claim)) := by
    rw [← claimsBelow_nil_eq_map, ← keys_eq_gather]
    exact List.filter_sublist
  refine ((entries_perm part).trans (all.filter _)).trans (.of_eq ?_)
  rw [List.filter_append, List.filter_map, List.filter_map]
  congr 2
  -- The key of a shared directory is always among those that are claimed more than once.
  rw [List.filter_filter]
  refine List.filter_congr fun place member => ?_
  cases shared : place.isShared with
  | false => simp
  | true => simpa using key_mem_collisions_of_isShared member shared

end Build

section Ends

/-- The source of a route does not end in a separator, as the listing of a directory does. -/
theorem getLast?_source_ne {root : Text} {records : List Record} {route : Route}
    (member : route ∈ routes root records) : route.record.source.getLast? ≠ some '/' := by
  -- The source has a name behind its last separator, or else there would be no route.
  obtain ⟨record, _, found⟩ := List.mem_filterMap.mp member
  obtain ⟨relative, placed, named⟩ := Option.bind_eq_some_iff.mp found
  dsimp only at named
  split at named
  · cases named
  next filled =>
    cases named
    intro ends
    -- Then the path beneath the root is cut at its end, and names no file.
    obtain ⟨before, same⟩ := List.getLast?_eq_some_iff.mp ends
    obtain ⟨front, whole⟩ := isSuffix_of_afterLast? placed
    obtain rfl | ⟨start, last, rfl⟩ := relative.eq_nil_or_concat
    · simp [segments] at filled
    · rw [same, Text.replaceChar, List.map_append, List.concat_eq_append] at whole
      have separated : last = '/' := by simpa [← List.append_assoc] using congrArg List.getLast? whole
      simp [segments, separated, List.splitOn_append_cons_self] at filled

end Ends

end Asset

open Asset (Place Record Route build collisions entries routes)

/-- The errors of a run are told by the entries of the keys that are claimed more than once. -/
theorem collisionErrors_eq (claims : List Asset.Claim) :
    Asset.collisionErrors claims = (entries claims).map fun entry => Diagnostic.duplicateKey entry.1 entry.2 := by
  -- Of each claim, both lists tell the sources one by one with its key.
  rw [Asset.collisionErrors, entries, List.map_flatMap]
  exact List.flatMap_congr fun claim _ => by rw [List.map_map]; rfl

/-- A run that is blocked has the keys that are claimed more than once. -/
theorem duplicates_generate (records : List Record) (target : Target)
    (blocked : (generate records target).ok = false) :
    (generate records target).duplicates = collisions (build target.className target.rootDirectory records) := by
  -- The other two ways to end are no failure.
  simp only [generate, Generation.ok, Generation.duplicates, Asset.build_beneath] at blocked ⊢
  split_ifs at blocked ⊢
  rfl

/--
A run that is blocked emits nothing, and reports every file whose key is claimed more than once just once.

The errors are those of the duplicate keys in order, one for each source, and each key has two sources or more.
Apart from one error for each file whose node has such a key, there is one for each directory that shares its
name with a file or with a sibling.
The path of a directory ends in a separator there, and that of a file never does.
-/
theorem report_generate_of_blocked (records : List Record) (target : Target)
    (blocked : (generate records target).ok = false) :
    let generation := generate records target
    let tree := build target.className target.rootDirectory records
    let files := routes target.rootDirectory records
    (generation.source = [] ∧ generation.sourceName = []) ∧
      (generation.duplicates.map Prod.fst).Nodup ∧ (∀ claim ∈ generation.duplicates, 2 ≤ claim.2.length) ∧
      generation.diagnostics =
        (generation.duplicates.flatMap fun claim => claim.2.map (Diagnostic.duplicateKey claim.1)) ∧
      (∀ diagnostic ∈ generation.diagnostics, diagnostic.isError = true) ∧
      generation.diagnostics.Perm
        (((files.filter fun file => file.key tree ∈ generation.duplicates.map Prod.fst).map fun file =>
            Diagnostic.duplicateKey (file.key tree) file.record.source) ++
          (tree.places.filter Place.isShared).map fun place => Diagnostic.duplicateKey place.key place.listing) ∧
      (tree.places.map (Place.way Asset.Node.key)).Nodup ∧
      ∀ file ∈ files, file.record.source.getLast? ≠ some '/' := by
  intro generation tree files
  have duplicates := duplicates_generate records target blocked
  have distinct : (tree.places.map (Place.way Asset.Node.key)).Nodup :=
    Asset.Node.nodup_ways tree (Asset.siblingsDiffer_key_build target.className target.rootDirectory records)
  refine ⟨?_, ?_, ?_, rfl, ?_, ?_, distinct, fun file => Asset.getLast?_source_ne⟩
  · -- What is blocked has no text and so no file name.
    simp only [generation, Generation.source, Generation.sourceName, Generation.ok] at blocked ⊢
    split <;> simp_all
  · -- A dictionary has each key once, and so has a part of it.
    rw [duplicates]
    exact (Asset.nodup_gather _).sublist (List.filter_sublist.map _)
  · intro claim member
    rw [duplicates] at member
    exact of_decide_eq_true (List.mem_filter.mp member).2
  · -- Each is the error of one source of a duplicate key.
    intro diagnostic member
    obtain ⟨claim, _, listed⟩ := List.mem_flatMap.mp member
    obtain ⟨source, _, rfl⟩ := List.mem_map.mp listed
    rfl
  · -- The entries of the collisions are known up to their order, and the errors are made entry by entry.
    have reported := (Asset.entries_collisions_perm target.className target.rootDirectory records).map
      fun entry => Diagnostic.duplicateKey entry.1 entry.2
    rw [List.map_append, List.map_map, List.map_map, ← collisionErrors_eq, ← duplicates] at reported
    exact reported

/-- A file that shares its key with a directory is reported beside it, and two files below that on their own. -/
theorem report_generate_of_blocked_nested :
    let records : List Record := [⟨"/w/A".toList, true⟩, ⟨"/w/a/x".toList, true⟩, ⟨"/w/a/X".toList, true⟩]
    let generation := generate records ⟨['C'], ['/'], ['w']⟩
    generation.ok = false ∧ generation.diagnostics.Perm
      [.duplicateKey ['A'] "/w/A".toList, .duplicateKey "A.X".toList "/w/a/x".toList,
        .duplicateKey "A.X".toList "/w/a/X".toList, .duplicateKey ['A'] "a/".toList] := by
  -- Both sides of the order are evaluated for the three records.
  intro records generation
  have blocked : generation.ok = false := by decide +kernel
  obtain ⟨_, _, _, _, _, reported, _⟩ := report_generate_of_blocked records ⟨['C'], ['/'], ['w']⟩ blocked
  exact ⟨blocked, reported.trans (.of_eq (by decide +kernel))⟩

end AssetCatalog
