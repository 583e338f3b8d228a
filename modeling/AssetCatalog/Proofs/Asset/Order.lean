import AssetCatalog.Proofs.Asset.Files

/-! What the order of the records decides about collisions: only which spelling names a directory. -/

namespace AssetCatalog.Asset

namespace Route

/-- Whether two routes lead through one node at a depth, where the children of the root have depth zero. -/
def Meet (depth : Nat) (first second : Route) : Prop :=
  -- The keys down to the node are the same ones.
  depth < first.keys.length ∧ first.keys.take (depth + 1) = second.keys.take (depth + 1)

/-- Whether two routes lead through different children of one node at a depth. -/
def Part (depth : Nat) (first second : Route) : Prop :=
  -- The keys down to the children differ in the last one.
  depth < first.keys.length ∧ depth < second.keys.length ∧
    first.keys.take depth = second.keys.take depth ∧ first.keys[depth]? ≠ second.keys[depth]?

instance (depth : Nat) (first second : Route) : Decidable (Meet depth first second) :=
  inferInstanceAs (Decidable (_ ∧ _))

instance (depth : Nat) (first second : Route) : Decidable (Part depth first second) :=
  inferInstanceAs (Decidable (_ ∧ _ ∧ _ ∧ _))

/-- A route reaches a node exactly if the keys of the node are its first keys. -/
theorem reaches_iff_take {keys : List Text} {route : Route} :
    Reaches keys route ↔ route.keys.take keys.length = keys :=
  List.prefix_iff_eq_take.trans eq_comm

/-- A route reaches the nodes at each depth of its own keys. -/
theorem reaches_take (count : Nat) (route : Route) : Reaches (route.keys.take count) route :=
  List.take_prefix _ _

/-- The keys down to a depth are those down to the depth before it, and one more. -/
theorem take_keys_succ {depth : Nat} {route : Route} (within : depth < route.keys.length) :
    route.keys.take (depth + 1) = route.keys.take depth ++ [route.keys[depth]] :=
  List.take_succ_eq_append_getElem within

/-- The identifiers of the directories on a route come before that of its file. -/
theorem names_getElem?_of_lt {depth : Nat} {route : Route} (within : depth < route.directories.length) :
    route.names[depth]? = route.directories[depth]?.map (Name.ofText · false) := by
  simp [names, steps, List.getElem?_append, within]

/-- Routes that meet go through one node whichever of them is asked. -/
theorem Meet.symm {depth : Nat} {first second : Route} (meet : Meet depth first second) :
    Meet depth second first := by
  -- To share the keys down to a depth, both need as many.
  obtain ⟨within, keys⟩ := meet
  have lengths := congrArg List.length keys
  rw [List.length_take, List.length_take] at lengths
  exact ⟨by omega, keys.symm⟩

/-- Routes that meet a route at one depth meet each other there. -/
theorem Meet.trans {depth : Nat} {first second third : Route} (meet : Meet depth first second)
    (further : Meet depth second third) : Meet depth first third :=
  ⟨meet.1, meet.2.trans further.2⟩

/-- Routes that part do so whichever of them is asked. -/
theorem Part.symm {depth : Nat} {first second : Route} (part : Part depth first second) :
    Part depth second first :=
  ⟨part.2.1, part.1, part.2.2.1.symm, part.2.2.2.symm⟩

/-- Routes that meet have the same keys above the node, and the key of the node in common. -/
theorem Meet.keys {depth : Nat} {first second : Route} (meet : Meet depth first second) :
    first.keys.take depth = second.keys.take depth ∧ first.keys[depth]? = second.keys[depth]? := by
  -- Both are read off the keys down to the node.
  constructor
  · simpa [List.take_take] using congrArg (·.take depth) meet.2
  · simpa [List.getElem?_take] using congrArg (·[depth]?) meet.2

/-- Where two routes part, so do those that meet them there. -/
theorem Part.of_meet {depth : Nat} {first second third fourth : Route} (part : Part depth first second)
    (meet : Meet depth first third) (alsoMeet : Meet depth second fourth) : Part depth third fourth := by
  -- The keys of the two that meet the others are the same above the depth and at it.
  obtain ⟨_, _, above, different⟩ := part
  obtain ⟨up, own⟩ := meet.keys
  obtain ⟨otherUp, otherOwn⟩ := alsoMeet.keys
  exact ⟨meet.symm.1, alsoMeet.symm.1, up.symm.trans (above.trans otherUp), own ▸ otherOwn ▸ different⟩

/-- Routes that part do not reach each other's nodes at that depth. -/
theorem Part.not_reaches {depth : Nat} {first second : Route} (part : Part depth first second) :
    ¬ Reaches (second.keys.take (depth + 1)) first := by
  obtain ⟨within, alsoWithin, _, different⟩ := part
  intro reached
  have same := reaches_iff_take.mp reached
  rw [List.length_take, Nat.min_eq_left (by omega)] at same
  -- The keys at the depth are the last ones of the keys taken.
  have last := congrArg (·[depth]?) same
  simp only [List.getElem?_take, Nat.lt_succ_self, if_true] at last
  exact different last

end Route

/-- The name that routes give to the node with the given keys: the first of them to reach it decides. -/
def nameOf (files : List Route) (keys : List Text) : Option Text :=
  (files.find? (Route.Reaches keys ·)).bind (·.names[keys.length - 1]?)

/-- Whether no file stands at a node that another route reaches too. -/
structure FilesApart (files : List Route) : Prop where
  /-- No two routes end at one node. -/
  distinct : (files.map Route.keys).Nodup
  /-- No route passes a node where one ends. -/
  unpassed : ∀ first ∈ files, ∀ second ∈ files, ¬ Route.Passes first.keys second

/--
Whether an identifier may name a directory or a sibling of the directory.

Two routes spell a directory differently, and a third one gives the first spelling to a sibling.
-/
def Contested (files : List Route) : Prop :=
  ∃ first ∈ files, ∃ second ∈ files, ∃ third ∈ files, ∃ depth < first.keys.length,
    Route.Meet depth first second ∧ Route.Part depth first third ∧
      first.names[depth]? ≠ second.names[depth]? ∧ first.names[depth]? = third.names[depth]?

/-- Whether routes that lead through one directory spell it so that it gets one identifier. -/
def SpelledAlike (files : List Route) : Prop :=
  ∀ first ∈ files, ∀ second ∈ files, ∀ depth < first.directories.length,
    depth < second.directories.length → Route.Meet depth first second →
      first.directories[depth]?.map (Name.ofText · false) =
        second.directories[depth]?.map (Name.ofText · false)

instance (files : List Route) : Decidable (Contested files) :=
  inferInstanceAs (Decidable (∃ _ ∈ files, ∃ _ ∈ files, ∃ _ ∈ files, ∃ _ < _, _))

instance (files : List Route) : Decidable (SpelledAlike files) :=
  inferInstanceAs (Decidable (∀ _ ∈ files, ∀ _ ∈ files, ∀ _ < _, _))

section Reordered

variable {files others : List Route}

/-- Whether an identifier is contested does not depend on the order of the routes. -/
theorem Contested.perm (contested : Contested files) (same : files.Perm others) : Contested others := by
  -- The routes that contest the identifier are among the others too.
  obtain ⟨first, inFirst, second, inSecond, third, inThird, rest⟩ := contested
  exact ⟨first, same.subset inFirst, second, same.subset inSecond, third, same.subset inThird, rest⟩

/-- Whether directories are spelled alike does not depend on the order of the routes. -/
theorem SpelledAlike.perm (alike : SpelledAlike files) (same : files.Perm others) :
    SpelledAlike others := fun first inFirst second inSecond =>
  alike first (same.symm.subset inFirst) second (same.symm.subset inSecond)

/-- Whether the files are apart does not depend on the order of the routes. -/
theorem FilesApart.perm (apart : FilesApart files) (same : files.Perm others) : FilesApart others where
  distinct := (same.map Route.keys).nodup apart.distinct
  unpassed first inFirst second inSecond :=
    apart.unpassed first (same.symm.subset inFirst) second (same.symm.subset inSecond)

/-- Where the files are apart, a route that reaches the node of a file is the route of the file. -/
theorem FilesApart.eq_of_reaches (apart : FilesApart files) {first second : Route} (inFirst : first ∈ files)
    (inSecond : second ∈ files) (reached : Route.Reaches first.keys second) : first = second := by
  -- Passing the file is excluded, and ending at its node means having its keys.
  rcases (Route.reaches_iff _ _).mp reached with passed | ends
  · exact (apart.unpassed first inFirst second inSecond passed).elim
  · exact List.inj_on_of_nodup_map apart.distinct inFirst inSecond ends.symm

/-- Where the files are apart and directories are spelled alike, all routes to a node name it alike. -/
theorem SpelledAlike.names_eq (alike : SpelledAlike files) (apart : FilesApart files)
    {first second : Route} (inFirst : first ∈ files) (inSecond : second ∈ files) {depth : Nat}
    (meet : Route.Meet depth first second) : first.names[depth]? = second.names[depth]? := by
  obtain ⟨within, keys⟩ := meet
  have lengths := congrArg List.length keys
  simp only [List.length_take, Route.length_keys] at lengths within
  -- A route that ends at the depth ends at a node of the other route, which is then the same route.
  by_cases ends : first.directories.length = depth
  · have whole : first.keys.take (depth + 1) = first.keys := List.take_of_length_le (by simp [ends])
    rw [apart.eq_of_reaches inFirst inSecond (whole ▸ keys ▸ Route.reaches_take _ _)]
  by_cases alsoEnds : second.directories.length = depth
  · have whole : second.keys.take (depth + 1) = second.keys :=
      List.take_of_length_le (by simp [alsoEnds])
    rw [apart.eq_of_reaches inSecond inFirst (whole ▸ keys ▸ Route.reaches_take _ _)]
  -- Both go on from here, and their directories at the depth are spelled alike.
  have inner : depth < first.directories.length := by omega
  have alsoInner : depth < second.directories.length := by omega
  rw [Route.names_getElem?_of_lt inner, Route.names_getElem?_of_lt alsoInner]
  exact alike first inFirst second inSecond depth inner alsoInner ⟨by simp; omega, keys⟩

/-- Where the files are apart and directories are spelled alike, no identifier is contested. -/
theorem SpelledAlike.not_contested (alike : SpelledAlike files) (apart : FilesApart files) :
    ¬ Contested files := by
  -- Routes that meet at a directory agree on its name, and contesting ones do not.
  rintro ⟨first, inFirst, second, inSecond, _, _, depth, _, meet, _, different, _⟩
  exact different (alike.names_eq apart inFirst inSecond meet)

end Reordered

/-- Reordered records have the same routes in another order. -/
theorem routes_perm {records others : List Record} (root : Text) (same : records.Perm others) :
    (routes root records).Perm (routes root others) :=
  same.filterMap _

section Build

variable {className root : Text} {records : List Record}

/-- The node at a place has the name that the routes give to it. -/
theorem nameOf_way {place : Place} (member : place ∈ (build className root records).places) :
    nameOf (routes root records) (place.way Node.key) = some place.node.name := by
  -- The portrait of the node names the first route that reaches it.
  obtain ⟨first, reached, named, _⟩ :=
    portrait_eq_some (portrait_of_mem_places member) (place.way_ne_nil Node.key)
  simpa [nameOf, reached] using named

/-- Some route reaches the node at a place. -/
theorem exists_reaches_way {place : Place} (member : place ∈ (build className root records).places) :
    ∃ route ∈ routes root records, Route.Reaches (place.way Node.key) route := by
  -- The portrait of the node was found by a first route that reaches it.
  obtain ⟨first, reached, _⟩ :=
    portrait_eq_some (portrait_of_mem_places member) (place.way_ne_nil Node.key)
  exact ⟨first, List.mem_of_find?_eq_some reached, by simpa using List.find?_some reached⟩

/-- Wherever a route leads, there is a place. -/
theorem exists_place_of_reaches (className : Text) {route : Route} (member : route ∈ routes root records)
    {keys : List Text} (below : keys ≠ []) (reached : Route.Reaches keys route) :
    ∃ place ∈ (build className root records).places, place.way Node.key = keys := by
  -- A node that is reached is portrayed, so it is found, and a node that is found stands at a place.
  have drawn : (portrait (routes root records) keys).isSome := by
    simpa [portrait] using ⟨route, member, reached⟩
  rw [← bare_find?_build className root records below, Option.isSome_map] at drawn
  obtain ⟨node, found⟩ := Option.isSome_iff_exists.mp drawn
  obtain ⟨key, rest, rfl⟩ := List.exists_cons_of_ne_nil below
  obtain ⟨place, known, _, way⟩ := Node.exists_place_of_find? rest [] found
  exact ⟨place, known, way⟩

/-- A route reaches a place exactly if it has the keys of the way there, one after the other. -/
theorem reaches_way_iff {place : Place} {route : Route} :
    Route.Reaches (place.way Node.key) route ↔
      route.keys.take place.above.length = place.above.map Node.key ∧
        route.keys[place.above.length]? = some place.node.key := by
  rw [Route.reaches_iff_take]
  -- The way is that of the nodes above, and the key of the node comes last.
  have way : place.way Node.key = place.above.map Node.key ++ [place.node.key] := by simp [Place.way]
  have length : (place.way Node.key).length = place.above.length + 1 := by simp [way]
  rw [length, way]
  constructor
  · intro taken
    -- The route is longer than the nodes above are many, so that its next key can be split off.
    have within : place.above.length < route.keys.length := by
      have short := congrArg List.length taken
      rw [List.length_take] at short
      simp only [List.length_append, List.length_map, List.length_singleton] at short
      omega
    rw [Route.take_keys_succ within] at taken
    obtain ⟨up, own⟩ := List.append_inj' taken rfl
    exact ⟨up, by rw [List.getElem?_eq_getElem within, (List.cons.inj own).1]⟩
  · rintro ⟨up, own⟩
    obtain ⟨within, key⟩ := List.getElem?_eq_some_iff.mp own
    rw [Route.take_keys_succ within, up, key]

/-- The keys of a route that reaches a place begin with those of the way there. -/
theorem take_eq_way {place : Place} {route : Route} (reached : Route.Reaches (place.way Node.key) route) :
    route.keys.take (place.above.length + 1) = place.way Node.key := by
  -- The way there has one key more than there are nodes above.
  have taken := Route.reaches_iff_take.mp reached
  simpa [Place.way] using taken

/-- A route leads through a place at each depth of its keys. -/
theorem exists_place_at_depth (className : Text) {route : Route} (member : route ∈ routes root records)
    {depth : Nat} (within : depth < route.keys.length) :
    ∃ place ∈ (build className root records).places, place.above.length = depth ∧
      Route.Reaches (place.way Node.key) route ∧ place.way Node.key = route.keys.take (depth + 1) := by
  -- The keys up to the depth lead to a place, below as many nodes as there are keys ahead of its own.
  obtain ⟨place, known, way⟩ := exists_place_of_reaches className member
    (by rw [Route.take_keys_succ within]; exact List.append_ne_nil_of_right_ne_nil _ (List.cons_ne_nil _ _))
    (Route.reaches_take (depth + 1) route)
  refine ⟨place, known, ?_, way ▸ Route.reaches_take _ _, way⟩
  have lengths := congrArg List.length way
  rw [List.length_take, Nat.min_eq_left (by omega)] at lengths
  simpa [Place.way] using lengths

/-- Names tell siblings apart exactly if no two routes part for nodes that are named alike. -/
theorem siblingsDiffer_name_iff :
    Node.SiblingsDiffer Node.name (build className root records) ↔
      ∀ first ∈ routes root records, ∀ second ∈ routes root records, ∀ depth,
        Route.Part depth first second →
          nameOf (routes root records) (first.keys.take (depth + 1)) ≠
            nameOf (routes root records) (second.keys.take (depth + 1)) := by
  rw [Node.siblingsDiffer_iff_places (build className root records) []
    (siblingsDiffer_key_build className root records)]
  constructor
  · rintro differ first inFirst second inSecond depth ⟨within, alsoWithin, above, different⟩ same
    -- The nodes for which the routes part stand at places with the same keys above them.
    obtain ⟨place, member, rfl, reached, way⟩ := exists_place_at_depth className inFirst within
    obtain ⟨other, alsoMember, depth, alsoReached, otherWay⟩ :=
      exists_place_at_depth className inSecond alsoWithin
    rw [← way, ← otherWay, nameOf_way member, nameOf_way alsoMember] at same
    obtain ⟨up, own⟩ := reaches_way_iff.mp reached
    obtain ⟨otherUp, otherOwn⟩ := reaches_way_iff.mp alsoReached
    rw [depth] at otherUp otherOwn
    refine differ place member other alsoMember (up.symm.trans (above.trans otherUp)) ?_
      (Option.some.inj same)
    exact fun equal => different (by rw [own, otherOwn, equal])
  · intro differ place member other alsoMember level different same
    -- Routes that reach the two places part there.
    obtain ⟨first, inFirst, reached⟩ := exists_reaches_way member
    obtain ⟨second, inSecond, alsoReached⟩ := exists_reaches_way alsoMember
    have depth : other.above.length = place.above.length := by
      simpa using congrArg List.length level.symm
    obtain ⟨up, own⟩ := reaches_way_iff.mp reached
    obtain ⟨otherUp, otherOwn⟩ := reaches_way_iff.mp alsoReached
    have otherTaken := take_eq_way alsoReached
    rw [depth] at otherUp otherOwn otherTaken
    refine differ first inFirst second inSecond place.above.length
      ⟨(List.getElem?_eq_some_iff.mp own).1, (List.getElem?_eq_some_iff.mp otherOwn).1,
        up.trans (level.trans otherUp.symm), ?_⟩ ?_
    · rw [own, otherOwn]
      exact fun equal => different (Option.some.inj equal)
    · rw [take_eq_way reached, otherTaken, nameOf_way member, nameOf_way alsoMember, same]

/-- Where the files are apart, each node has one source at most, and none if it is a directory. -/
theorem plain_of_filesApart (apart : FilesApart (routes root records)) {place : Place}
    (member : place ∈ (build className root records).places) :
    place.node.sources.length ≤ 1 ∧ ¬ (place.node.directory.isSome ∧ place.node.sources ≠ []) := by
  have drawn := portrait_of_mem_places member
  rw [portrait_sources drawn, portrait_directory drawn]
  constructor
  · -- The sources are those of the routes that end at the node.
    have single := List.nodup_iff_count_le_one.mp apart.distinct (place.way Node.key)
    rw [List.count, List.countP_map] at single
    rw [List.length_map, ← List.countP_eq_length_filter]
    simpa [Function.comp_def, beq_eq_decide] using single
  · -- A route that passes the node and one that ends there would not be apart.
    rintro ⟨passed, ended⟩
    obtain ⟨second, inSecond, passes⟩ : ∃ second ∈ routes root records,
        Route.Passes (place.way Node.key) second := by simpa using passed
    obtain ⟨first, inFirst, ends⟩ : ∃ first ∈ routes root records,
        first.keys = place.way Node.key := by simpa using ended
    exact apart.unpassed first inFirst second inSecond (ends ▸ passes)

/-- Without collisions, the files are apart. -/
theorem filesApart_of_collisions_eq_nil (free : collisions (build className root records) = []) :
    FilesApart (routes root records) where
  distinct := nodup_keys_routes free
  unpassed first inFirst second inSecond passed := by
    -- A node where one route ends and that another one passes has a source and a directory.
    obtain ⟨place, member, way⟩ := exists_place_of_route className inFirst
    have drawn := portrait_of_mem_places member
    refine ((plain_of_collisions_eq_nil free).1 place member).2 ⟨?_, ?_⟩
    · rw [portrait_directory drawn, way]
      simpa using ⟨second, inSecond, passed⟩
    · rw [portrait_sources drawn, way]
      simpa using ⟨first, inFirst, rfl⟩

/-- A tree is free of collisions exactly if the files are apart and names tell siblings apart. -/
theorem collisions_eq_nil_iff_apart : collisions (build className root records) = [] ↔
    FilesApart (routes root records) ∧ Node.SiblingsDiffer Node.name (build className root records) := by
  refine ⟨fun free => ⟨filesApart_of_collisions_eq_nil free, (plain_of_collisions_eq_nil free).2⟩, ?_⟩
  rintro ⟨apart, differ⟩
  rw [collisions_eq_nil_iff_places]
  -- Each place claims its sources alone, and the keys of all places differ.
  constructor
  · intro place member
    obtain ⟨single, unmixed⟩ := plain_of_filesApart apart member
    rw [claim_of_mem_places differ member unmixed]
    exact single
  · exact (List.pairwise_map.mp (nodup_dotted_places differ)).imp fun different _ _ => different

end Build

/-- The first route to reach a node at a depth names it. -/
theorem nameOf_take {files : List Route} {route first : Route} {depth : Nat}
    (within : depth < route.keys.length)
    (reached : files.find? (Route.Reaches (route.keys.take (depth + 1)) ·) = some first) :
    nameOf files (route.keys.take (depth + 1)) = first.names[depth]? := by
  -- The keys taken are one more than the depth, so that the last of them is the one at the depth.
  have length : (route.keys.take (depth + 1)).length = depth + 1 := by
    rw [List.length_take]
    omega
  rw [nameOf, reached, Option.bind_some, length, Nat.add_sub_cancel]

/-- A node that a route reaches at a depth is named by a route that meets it there. -/
theorem exists_nameOf_take {files : List Route} {route : Route} (member : route ∈ files) {depth : Nat}
    (within : depth < route.keys.length) :
    ∃ first ∈ files, Route.Meet depth route first ∧
      nameOf files (route.keys.take (depth + 1)) = first.names[depth]? := by
  -- The route itself reaches the node, so that there is a first one that does.
  obtain ⟨first, reached⟩ : ∃ first, files.find? (Route.Reaches (route.keys.take (depth + 1)) ·) = some first := by
    rw [← Option.isSome_iff_exists, List.find?_isSome]
    exact ⟨route, member, by simpa using Route.reaches_take (depth + 1) route⟩
  have start : Route.Reaches (route.keys.take (depth + 1)) first := by simpa using List.find?_some reached
  refine ⟨first, List.mem_of_find?_eq_some reached, ⟨within, ?_⟩, nameOf_take within reached⟩
  -- To reach the node is to share all keys down to this depth.
  have taken := Route.reaches_iff_take.mp start
  rw [List.length_take, Nat.min_eq_left (by omega)] at taken
  exact taken.symm

section Orders

variable {className root : Text} {records others : List Record}

/-- Without a contested identifier, records that have no collisions have none in any order. -/
theorem collisions_eq_nil_of_perm (same : records.Perm others) (calm : ¬ Contested (routes root records))
    (free : collisions (build className root records) = []) :
    collisions (build className root others) = [] := by
  obtain ⟨apart, differ⟩ := collisions_eq_nil_iff_apart.mp free
  have reordered := routes_perm root same
  refine collisions_eq_nil_iff_apart.mpr ⟨apart.perm reordered, ?_⟩
  rw [siblingsDiffer_name_iff] at differ ⊢
  intro first inFirst second inSecond depth part clash
  have inRecords : ∀ route ∈ routes root others, route ∈ routes root records := reordered.symm.subset
  -- In either order, a route that leads there names each of the two nodes.
  obtain ⟨namer, known, meet, name⟩ := exists_nameOf_take inFirst part.1
  obtain ⟨otherNamer, otherKnown, otherMeet, otherName⟩ := exists_nameOf_take inSecond part.2.1
  obtain ⟨earlier, earlierKnown, earlierMeet, earlierName⟩ :=
    exists_nameOf_take (inRecords first inFirst) part.1
  obtain ⟨otherEarlier, otherEarlierKnown, otherEarlierMeet, otherEarlierName⟩ :=
    exists_nameOf_take (inRecords second inSecond) part.2.1
  have equal : namer.names[depth]? = otherNamer.names[depth]? := by rw [← name, clash, otherName]
  have different : earlier.names[depth]? ≠ otherEarlier.names[depth]? := by
    rw [← earlierName, ← otherEarlierName]
    exact differ first (inRecords first inFirst) second (inRecords second inSecond) depth part
  have apartHere : Route.Part depth namer otherNamer := part.of_meet meet otherMeet
  -- One of the nodes has another name than before, and the sibling has that name now.
  by_cases renamed : namer.names[depth]? = earlier.names[depth]?
  · refine calm ⟨otherNamer, inRecords _ otherKnown, otherEarlier, otherEarlierKnown, namer,
      inRecords _ known, depth, apartHere.2.1, otherMeet.symm.trans otherEarlierMeet, apartHere.symm, ?_,
      equal.symm⟩
    rw [← equal, renamed]
    exact different
  · exact calm ⟨namer, inRecords _ known, earlier, earlierKnown, otherNamer, inRecords _ otherKnown,
      depth, apartHere.1, meet.symm.trans earlierMeet, apartHere, renamed, equal⟩

/-- A contested identifier makes the records collide in some order. -/
theorem exists_perm_collisions (className : Text) (contested : Contested (routes root records)) :
    ∃ others, records.Perm others ∧ collisions (build className root others) ≠ [] := by
  obtain ⟨first, inFirst, _, _, third, inThird, depth, _, _, part, _, equal⟩ := contested
  obtain ⟨record, inRecords, made⟩ := List.mem_filterMap.mp inFirst
  obtain ⟨other, alsoInRecords, otherMade⟩ := List.mem_filterMap.mp inThird
  have different : record ≠ other := by
    rintro rfl
    rw [made, Option.some.injEq] at otherMade
    exact part.2.2.2 (by rw [otherMade])
  -- The records of the two routes that share the identifier come first, so that it names both nodes.
  refine ⟨record :: other :: (records.erase record).erase other, ?_, fun free => ?_⟩
  · refine (List.perm_cons_erase inRecords).trans (List.Perm.cons _ (List.perm_cons_erase ?_))
    exact (List.mem_erase_of_ne different.symm).mpr alsoInRecords
  · have ways : routes root (record :: other :: (records.erase record).erase other) =
        first :: third :: routes root ((records.erase record).erase other) := by
      simp [routes, made, otherMade]
    have differ := siblingsDiffer_name_iff.mp (collisions_eq_nil_iff_apart.mp free).2
    rw [ways] at differ
    refine differ first (by simp) third (by simp) depth part ?_
    -- The first route names its own node, and the third one that of the other.
    have namer : (first :: third :: routes root ((records.erase record).erase other)).find?
        (Route.Reaches (first.keys.take (depth + 1)) ·) = some first := by simp [Route.reaches_take]
    have otherNamer : (first :: third :: routes root ((records.erase record).erase other)).find?
        (Route.Reaches (third.keys.take (depth + 1)) ·) = some third := by
      simp [Route.reaches_take, part.not_reaches]
    rw [nameOf_take part.1 namer, nameOf_take part.2.1 otherNamer, equal]

end Orders

end AssetCatalog.Asset
