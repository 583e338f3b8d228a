import AssetCatalog.Proofs.Store.Walk
import AssetCatalog.Store.Change
import Mathlib.Logic.Function.Iterate

/-! What the changes of a store leave as it was: a new directory or a written file changes one place only. -/

namespace AssetCatalog.Store.Entry

section Putting

variable {root entry : Entry} {store : Store} {place goal : Place}

/-- An entry that takes nothing away when it is put at a place. -/
structure Fits (root : Entry) (place : Place) (entry : Entry) : Prop where
  /-- There is a directory to put the entry into. -/
  within : (root.at? place.dropLast).any isDirectory = true
  /-- A file can take the place of a file only, any other entry that of nothing. -/
  replaces : ∀ {old : Entry}, root.at? place = some old → old.isFile = true ∧ entry.isFile = true
  /-- The entry holds no others. -/
  bare : entry.entries = []
  /-- The entry is no link. -/
  plain : entry.isLink = false

/-- A file is no directory. -/
theorem isDirectory_of_isFile (file : entry.isFile = true) : entry.isDirectory = false := by
  cases entry with
  | file => rfl
  | link | directory => cases file

/-- Another name does not change whether an entry is a link. -/
theorem isLink_renamed (name : Text) (entry : Entry) : (entry.renamed name).isLink = entry.isLink := by
  cases entry <;> rfl

/-- Another name does not change whether an entry is a file. -/
theorem isFile_renamed (name : Text) (entry : Entry) : (entry.renamed name).isFile = entry.isFile := by
  cases entry <;> rfl

/-- Another name does not change what an entry holds. -/
theorem entries_renamed (name : Text) (entry : Entry) : (entry.renamed name).entries = entry.entries := by
  cases entry <;> rfl

/-- Files of the same name are of one kind. -/
theorem kind_eq_of_isFile {old : Entry} (file : old.isFile = true) (same : entry.isFile = true)
    (named : old.name = entry.name) : old.kind = entry.kind := by
  -- The kind of a file is its name alone.
  cases old with
  | link | directory => cases file
  | file =>
    cases entry with
    | link | directory => cases same
    | file => simpa [kind, name] using named

/-- There is no directory where an entry fits. -/
theorem Fits.not_isDirectory (fits : Fits root place entry) :
    (root.at? place).any isDirectory = false := by
  -- What an entry replaces is a file, if there is anything.
  cases found : root.at? place with
  | none => rfl
  | some old => simpa using isDirectory_of_isFile (fits.replaces found).1

/-- What fits does so below some directory, under a name. -/
theorem Fits.exists_concat (fits : Fits root place entry) : ∃ above name, place = above ++ [name] := by
  obtain rfl | found := List.eq_nil_or_concat place
  -- The root is a directory itself, and these are not replaced.
  · have within := fits.within
    rw [List.dropLast_nil, fits.not_isDirectory] at within
    cases within
  · simpa using found

/-- Behind a place at which an entry was put, that entry is looked into, under the last name on the way. -/
theorem Fits.at?_putAt_append (fits : Fits store.root place entry) (rest : Place) :
    (store.putAt place entry).root.at? (place ++ rest) =
      (entry.renamed (place.getLast?.getD [])).at? rest := by
  -- The entry is put into the directory above, under the name that the place adds to it.
  obtain ⟨above, name, rfl⟩ := fits.exists_concat
  have there := at?_put (entry.renamed name) rest above (by simpa using fits.within)
  simpa [putAt] using there

/-- What was put at a place is found there. -/
theorem Fits.at?_putAt (fits : Fits store.root place entry) :
    (store.putAt place entry).root.at? place = some (entry.renamed (place.getLast?.getD [])) := by
  simpa [at?] using fits.at?_putAt_append []

/-- Beneath an entry that was put somewhere there is nothing. -/
theorem Fits.at?_putAt_beneath (fits : Fits store.root place entry) {rest : Place} (further : rest ≠ []) :
    (store.putAt place entry).root.at? (place ++ rest) = none := by
  -- The way on leads through the entry, which holds nothing.
  obtain ⟨step, rest, rfl⟩ := List.exists_cons_of_ne_nil further
  rw [fits.at?_putAt_append, at?, child?, entries_renamed, fits.bare]
  rfl

/-- Elsewhere nothing has changed. -/
theorem Fits.face_at?_putAt (fits : Fits store.root place entry) (apart : goal ≠ place) :
    ((store.putAt place entry).root.at? goal).map face = (store.root.at? goal).map face := by
  by_cases beneath : place <+: goal
  -- Beneath the entry there is nothing, and there was nothing before either.
  · obtain ⟨rest, rfl⟩ := beneath
    have further : rest ≠ [] := by simpa using apart
    rw [fits.at?_putAt_beneath further, at?_append_eq_none further fits.not_isDirectory]
  · obtain ⟨above, name, rfl⟩ := fits.exists_concat
    simpa [putAt] using face_at?_put (entry.renamed name) above store.root (by simpa using beneath)

/-- Entries with the same face are of one kind. -/
theorem map_kind_eq_of_face {one other : Option Entry} (same : one.map face = other.map face) :
    one.map kind = other.map kind := by
  -- A kind is all of a face but the content of a file.
  have step := congrArg (Option.map kind) same
  simpa [Function.comp_def, kind_face] using step

/-- The tree has grown by an entry that fits. -/
theorem Fits.grows (fits : Fits store.root place entry) : Grows store.root (store.putAt place entry).root := by
  -- At the place itself the entry is found, and at any other one what was there before.
  refine ⟨?_, ?_, Distinct.put (.of_bare (by rw [entries_renamed, fits.bare])) _⟩
  · intro goal old found
    by_cases here : goal = place
    -- What was there was a file, and so is the entry, which takes over the name.
    · subst here
      obtain ⟨file, same⟩ := fits.replaces found
      obtain ⟨above, name, rfl⟩ := fits.exists_concat
      have named : old.name = name := (of_at?_concat found).2
      have alike : old.kind = (entry.renamed name).kind :=
        kind_eq_of_isFile file (by rwa [isFile_renamed]) (by simpa using named)
      simp [fits.at?_putAt, alike]
    · have same := map_kind_eq_of_face (fits.face_at?_putAt here)
      rw [same, found, Option.map_some]
  · intro goal free
    by_cases here : goal = place
    -- The entry itself is new, and no link.
    · subst here
      simp [fits.at?_putAt, isLink_renamed, fits.plain]
    · have same := fits.face_at?_putAt here
      rw [free, Option.map_none, Option.map_eq_none_iff] at same
      simp [same]

end Putting

end AssetCatalog.Store.Entry

namespace AssetCatalog.Store

open Entry (Fits Grows face)

section Places

variable {before middle after store : Store} {path : Text} {place goal : Place}

/-- Two steps succeed exactly if each of them does. -/
theorem bind_eq_ok_iff {fault α β : Type} {first : Except fault α} {next : α → Except fault β} {result : β} :
    (first >>= next) = .ok result ↔ ∃ value, first = .ok value ∧ next value = .ok result := by
  -- A fault of the first step is one of both together.
  cases first with
  | error => simp [bind, Except.bind]
  | ok value => simp [bind, Except.bind]

/-- Where a path leads to a free place, a directory fits. -/
theorem fits_of_freePlace (free : store.freePlace path = .ok place) :
    store.place path false = .ok place ∧ store.root.at? place = none ∧
      Fits store.root place (.directory [] []) := by
  -- The path leads to the place, and only then the place is looked at.
  obtain ⟨goal, led, last⟩ := bind_eq_ok_iff.mp free
  split at last
  · cases last
  next empty =>
    cases last
    have empty : store.root.at? place = none := by simpa using empty
    exact ⟨led, empty, (lands_of_place led).within, by simp [empty], rfl, rfl⟩

/-- Where a path leads to a place for a file, a file fits. -/
theorem fits_of_filePlace (content : Bytes) (found : store.filePlace path = .ok place) :
    store.place path true = .ok place ∧ Fits store.root place (.file [] content) := by
  rw [filePlace] at found
  split at found
  -- With a separator at its end the path is refused in any case.
  · obtain ⟨-, -, refused⟩ := bind_eq_ok_iff.mp found
    cases refused
  next =>
    obtain ⟨goal, led, last⟩ := bind_eq_ok_iff.mp found
    split at last
    · cases last
    next other =>
      cases last
      have lands := lands_of_place led
      refine ⟨led, lands.within, ?_, rfl, rfl⟩
      -- What is at the place is neither a directory nor a link that would have been followed.
      intro old here
      have link := lands.settled rfl
      cases old with
      | file => exact ⟨rfl, rfl⟩
      | link => simp [here, Entry.isLink] at link
      | directory => simp [here, Entry.isDirectory] at other

/-- A place that was free holds a new directory, to which a path or one of those above it leads. -/
structure NewDirectory (path : Text) (before after : Store) (place : Place) : Prop where
  /-- Nothing was there. -/
  free : before.root.at? place = none
  /-- A directory is there. -/
  made : (after.root.at? place).any Entry.isDirectory = true
  /-- The path leads there, or one of those above it. -/
  above : ∃ count, after.place (Path.parent^[count] path) false = .ok place

/-- A store differs from another by new directories on the way to a path only. -/
structure MakesWay (path : Text) (before after : Store) : Prop where
  /-- Nothing is gone. -/
  grown : Grows before.root after.root
  /-- Every place shows what it showed, or a new directory. -/
  same : ∀ place : Place, (after.root.at? place).map face = (before.root.at? place).map face ∨
    NewDirectory path before after place

/-- A new directory is still there after a store has grown. -/
theorem NewDirectory.grow (new : NewDirectory path before middle place)
    (grown : Grows middle.root after.root) : NewDirectory path before after place := by
  -- A directory stays one, and the way to it stays the same.
  obtain ⟨count, led⟩ := new.above
  exact ⟨new.free, grown.isDirectory new.made, count, place_of_grows grown led⟩

/-- Nothing differs from itself. -/
theorem MakesWay.refl (path : Text) (store : Store) : MakesWay path store store :=
  ⟨.refl _, fun _ => .inl rfl⟩

/-- Directories can be made one after the other. -/
theorem MakesWay.trans (first : MakesWay path before middle) (last : MakesWay path middle after) :
    MakesWay path before after := by
  refine ⟨first.grown.trans last.grown, fun place => ?_⟩
  -- A directory that is new after either step was not there before both, and is there after both.
  obtain same | new := first.same place
  · obtain again | new := last.same place
    · exact .inl (again.trans same)
    · refine .inr ⟨?_, new.made, new.above⟩
      simpa [new.free] using same.symm
  · exact .inr (new.grow last.grown)

/-- The way to a path above is on the way. -/
theorem MakesWay.of_parent (way : MakesWay (Path.parent path) before after) :
    MakesWay path before after := by
  refine ⟨way.grown, fun place => (way.same place).imp_right fun new => ?_⟩
  -- A new directory stands above the parent, and so one step more above the path.
  obtain ⟨count, led⟩ := new.above
  exact ⟨new.free, new.made, count + 1, by rwa [Function.iterate_succ_apply]⟩

/-- A directory is made on the way to its own path. -/
theorem makesWay_makeDirectory (made : before.makeDirectory path = .ok after) :
    MakesWay path before after := by
  obtain ⟨place, free, last⟩ := bind_eq_ok_iff.mp made
  cases last
  obtain ⟨led, empty, fits⟩ := fits_of_freePlace free
  refine ⟨fits.grows, fun goal => ?_⟩
  -- The one place that changes is that to which the path itself leads.
  by_cases here : goal = place
  · subst here
    exact .inr ⟨empty, by rw [fits.at?_putAt]; rfl, 0, place_of_grows fits.grows led⟩
  · exact .inl (fits.face_at?_putAt here)

end Places

section Changes

variable {α β : Type} {path : Text}

/-- How a change ended that was to make directories on the way to a path. -/
structure Prepared (path : Text) (before : Store) (ended : Except Failure α × Store) : Prop where
  /-- However the change ended, only directories on the way are new. -/
  way : MakesWay path before ended.2
  /-- If it failed, then because a path could not be used. -/
  usable : ∀ fault, ended.1 ≠ .error (.undecodable fault)

/-- A change that makes directories on the way to a path only. -/
def Change.Prepares (path : Text) (change : Change α) : Prop :=
  ∀ store, Prepared path store (change.run store)

namespace Change

/-- Whatever is done with how a change ended is done in the store that it left. -/
theorem run_bind_apply (change : Change α) (further : Except Failure α → StateM Store (Except Failure β))
    (store : Store) :
    (change.run >>= further) store = further (change.run store).1 (change.run store).2 :=
  rfl

/-- A change goes on from the store that the change before it left. -/
theorem run_bind (first : Change α) (next : α → Change β) (store : Store) :
    (first >>= next).run store =
      match first.run store with
      | (.ok value, middle) => (next value).run middle
      | (.error failure, middle) => (.error failure, middle) := by
  -- A failure is passed on with the store in which it occurred.
  rw [ExceptT.run_bind, run_bind_apply]
  obtain ⟨result, middle⟩ := first.run store
  cases result <;> rfl

/-- A change that failed is repaired in the store that it left. -/
theorem run_tryCatch (change : Change α) (repair : Failure → Change α) (store : Store) :
    (tryCatch change repair).run store =
      match change.run store with
      | (.ok value, middle) => (.ok value, middle)
      | (.error failure, middle) => (repair failure).run middle := by
  -- The repair is not given the store from before the change.
  rw [ExceptT.run_tryCatch, run_bind_apply]
  obtain ⟨result, middle⟩ := change.run store
  cases result <;> rfl

/-- A change of the store that can be done is done, and one that cannot leaves the store. -/
theorem run_attempt (path : Text) (change : Store → Except Cause Store) (store : Store) :
    (attempt path change).run store =
      match change store with
      | .ok after => (.ok (), after)
      | .error cause => (.error (.unusable cause path), store) := by
  -- The store is read, and set only if there is a new one.
  have read : (attempt path change).run store =
      (match change store with
        | .ok after => set after
        | .error cause => throw (.unusable cause path) : Change Unit).run store := rfl
  rw [read]
  cases change store <;> rfl

/-- To do nothing is a preparation. -/
theorem prepares_pure (value : α) : Prepares path (pure value) :=
  fun store => ⟨.refl path store, fun _ wrong => by cases wrong⟩

/-- To fail is a preparation, if it is because a path cannot be used. -/
theorem prepares_throw {failure : Failure} (usable : ∀ fault, failure ≠ .undecodable fault) :
    Prepares path (throw failure : Change α) :=
  fun store => ⟨.refl path store, fun fault wrong => usable fault (by cases wrong; rfl)⟩

/-- What prepares the way to a path above is a preparation. -/
theorem Prepares.of_parent {change : Change α} (prepares : Prepares (Path.parent path) change) :
    Prepares path change :=
  fun store => ⟨(prepares store).way.of_parent, (prepares store).usable⟩

/-- What is prepared may depend on the store. -/
theorem Prepares.of_get {next : Store → Change α} (further : ∀ store, Prepares path (next store)) :
    Prepares path (get >>= next) :=
  fun store => further store store

/-- One preparation after the other is a preparation. -/
theorem Prepares.bind {first : Change α} {next : α → Change β} (prepares : Prepares path first)
    (further : ∀ value, Prepares path (next value)) : Prepares path (first >>= next) := by
  intro store
  have prepared := prepares store
  -- The second preparation begins where the first one ended, if that did not fail.
  rw [run_bind]
  generalize first.run store = ended at prepared ⊢
  obtain ⟨result, middle⟩ := ended
  cases result with
  | error failure => exact ⟨prepared.way, fun fault wrong => prepared.usable fault (by cases wrong; rfl)⟩
  | ok value =>
    have last := further value middle
    exact ⟨prepared.way.trans last.way, last.usable⟩

/-- A preparation that is repaired by another one is a preparation. -/
theorem Prepares.tryCatch {change : Change α} {repair : Failure → Change α} (prepares : Prepares path change)
    (repairs : ∀ failure, (∀ fault, failure ≠ .undecodable fault) → Prepares path (repair failure)) :
    Prepares path (tryCatch change repair) := by
  intro store
  have prepared := prepares store
  -- What was made before the failure stays, and the repair adds to it.
  rw [run_tryCatch]
  generalize change.run store = ended at prepared ⊢
  obtain ⟨result, middle⟩ := ended
  cases result with
  | error failure =>
    have last := repairs failure (fun fault same => prepared.usable fault (by rw [same])) middle
    exact ⟨prepared.way.trans last.way, last.usable⟩
  | ok value => exact prepared

/-- To try to make a directory is a preparation. -/
theorem prepares_makeDirectory (path : Text) :
    Prepares path (attempt path fun store => store.makeDirectory path) := by
  intro store
  rw [run_attempt]
  -- Where the directory cannot be made, nothing is.
  cases made : store.makeDirectory path with
  | error cause => exact ⟨.refl path store, fun _ wrong => by cases wrong⟩
  | ok after => exact ⟨makesWay_makeDirectory made, fun _ wrong => by cases wrong⟩

end Change

/-- Making directories only makes directories on the way. -/
theorem prepares_makeDirectories (path : Text) : Change.Prepares path (makeDirectories path) := by
  -- The directories above come first, for which the path is shorter.
  induction length : path.length using Nat.strongRecOn generalizing path with
  | ind count ih =>
    have last : Change.Prepares path (do
        if !(← get).isDirectory path then attempt path fun store => store.makeDirectory path) := by
      refine .of_get fun store => ?_
      split
      · exact Change.prepares_makeDirectory path
      · exact Change.prepares_pure ()
    rw [makeDirectories]
    split
    next shorter =>
      have above : Change.Prepares path (makeDirectories (Path.parent path)) :=
        .of_parent (ih _ (length ▸ shorter) _ rfl)
      refine .of_get fun store => ?_
      split
      · -- If a directory above is there by now, this is no reason to fail.
        refine .bind (.tryCatch above fun failure usable => ?_) fun _ => last
        split
        · exact Change.prepares_pure ()
        · exact Change.prepares_throw usable
      · exact last
    · exact last

end Changes

end AssetCatalog.Store
