import AssetCatalog.Proofs.Store.Change
import AssetCatalog.Proofs.Text.Utf8
import AssetCatalog.Store.Document

/-! What writing a text to a file does where it does anything, and where it leaves everything as it is. -/

namespace AssetCatalog.Store

open Entry (Grows Fits face)

variable {before middle after store : Store} {directory path content : Text} {bytes : Bytes} {goal : Place}

section Reading

/-- A file is read exactly if a path leads to it. -/
theorem read_eq_ok_iff : store.read path = .ok bytes ↔
    ∃ goal name, store.place path true = .ok goal ∧ store.root.at? goal = some (.file name bytes) := by
  -- Of all that can be at the end of the path, only a file has a content.
  rw [read, bind_eq_ok_iff]
  constructor
  · rintro ⟨goal, led, last⟩
    split at last
    next name content found =>
      cases last
      exact ⟨goal, name, led, found⟩
    · cases last
    · cases last
  · rintro ⟨goal, name, led, found⟩
    exact ⟨goal, led, by rw [found]; rfl⟩

/-- The text of a file is read exactly if the file holds the bytes of the text. -/
theorem readText_eq_ok_iff :
    store.readText directory path = .ok content ↔
      store.read (rooted directory path) = .ok (Utf8.encode content) := by
  -- Bytes are decoded to the one text that has them.
  rw [readText]
  cases store.read (rooted directory path) with
  | error cause => simp
  | ok bytes =>
    rw [Except.ok.injEq, ← Utf8.decode_eq_ok_iff]
    change (Utf8.decode bytes).mapError _ = _ ↔ _
    cases Utf8.decode bytes <;> simp [Except.mapError]

/-- What can be read is a file. -/
theorem isFile_of_read (held : store.read path = .ok bytes) : store.isFile path = true := by
  -- To be read, the path was led to its place, and a file was found there.
  obtain ⟨goal, name, led, found⟩ := read_eq_ok_iff.mp held
  simp [isFile, find?, led, found, Entry.isFile]

/-- The text of a file is known exactly if the file holds the bytes of the text. -/
theorem readText?_eq_some_iff :
    store.readText? directory path = .ok (some content) ↔
      store.read (rooted directory path) = .ok (Utf8.encode content) := by
  rw [readText?, ← readText_eq_ok_iff]
  split
  -- Where there is a file, its text is asked for, and elsewhere none can be read.
  · cases store.readText directory path <;> simp [Functor.map, Except.map]
  next other =>
    refine ⟨fun known => (by cases known), fun held => absurd ?_ other⟩
    exact isFile_of_read (readText_eq_ok_iff.mp held)

end Reading

section Writing

/-- A text is in the file that a path leads to, and nothing else has changed but for directories on the way. -/
structure Stored (directory path : Text) (bytes : Bytes) (before after : Store) (goal : Place) : Prop where
  /-- The path leads to the file. -/
  led : after.place (rooted directory path) true = .ok goal
  /-- The file holds the text and nothing else. -/
  held : ∃ name, after.root.at? goal = some (.file name bytes)
  /-- If there was anything before, it was a file too. -/
  replaced : ∀ {old : Entry}, before.root.at? goal = some old → old.isFile = true
  /-- Every other place shows what it showed, or a new directory above the file. -/
  others : ∀ {place : Place}, place ≠ goal →
    (after.root.at? place).map face = (before.root.at? place).map face ∨
      NewDirectory (Path.parent (Path.absolute directory path)) before after place
  /-- Nothing is gone. -/
  grown : Grows before.root after.root

/-- The file can be read afterwards. -/
theorem Stored.read (stored : Stored directory path bytes before after goal) :
    after.read (rooted directory path) = .ok bytes := by
  -- The path leads to the file, which holds the bytes.
  obtain ⟨name, held⟩ := stored.held
  exact read_eq_ok_iff.mpr ⟨goal, name, stored.led, held⟩

/-- A file that is written behind new directories is stored. -/
theorem stored_of_write (way : MakesWay (Path.parent (Path.absolute directory path)) before middle)
    (written : middle.write (rooted directory path) bytes = .ok after) :
    ∃ goal, Stored directory path bytes before after goal := by
  -- The path led to the place of the file before it was written, and still does.
  obtain ⟨goal, found, last⟩ := bind_eq_ok_iff.mp written
  cases last
  obtain ⟨led, fits⟩ := fits_of_filePlace bytes found
  refine ⟨goal, place_of_grows fits.grows led, ⟨_, fits.at?_putAt⟩, ?_, ?_, way.grown.trans fits.grows⟩
  · -- What was there before the directories were made is of the kind that was replaced.
    intro old here
    obtain ⟨now, there, same⟩ := Option.map_eq_some_iff.mp (way.grown.kept here)
    have file := (fits.replaces there).1
    rwa [← Entry.isFile_kind, ← same, Entry.isFile_kind]
  · -- Any other place shows what it did before the file was written.
    intro place apart
    rw [fits.face_at?_putAt apart]
    exact (way.same place).imp_right fun new => new.grow fits.grows

/-- How writing a text to a file that does not hold it ends. -/
inductive Publication (directory path content : Text) (before : Store) : Except Failure Bool × Store → Prop
  /-- The file holds the text, and nothing is written. -/
  | current (held : before.read (rooted directory path) = .ok (Utf8.encode content)) :
    Publication directory path content before (.ok false, before)
  /-- The text is written. -/
  | written {after : Store} {goal : Place}
      (stored : Stored directory path (Utf8.encode content) before after goal) :
    Publication directory path content before (.ok true, after)
  /-- What the file holds is no text. -/
  | undecodable (fault : Utf8.Fault) :
    Publication directory path content before (.error (.undecodable fault), before)
  /-- Directories may be new, but the text cannot be written. -/
  | unusable {after : Store} (cause : Cause) (culprit : Text)
      (way : MakesWay (Path.parent (Path.absolute directory path)) before after) :
    Publication directory path content before (.error (.unusable cause culprit), after)

/-- Writing a text begins with a look at what the file holds. -/
theorem run_publish (directory path content : Text) (store : Store) :
    (publish directory path content).run store =
      match store.readText? directory path with
      | .error failure => (.error failure, store)
      | .ok held =>
        if held = some content then (.ok false, store)
        else
          (do
            makeDirectories (Path.parent (Path.absolute directory path))
            attempt path fun store => store.write (rooted directory path) (Utf8.encode content)
            return true : Change Bool).run store := by
  -- The store is read first, and what is read decides.
  have read : (publish directory path content).run store =
      (do
        if (← (liftM (store.readText? directory path) : Change (Option Text))) = some content then return false
        else
          makeDirectories (Path.parent (Path.absolute directory path))
          attempt path fun store => store.write (rooted directory path) (Utf8.encode content)
          return true : Change Bool).run store := rfl
  rw [read]
  cases store.readText? directory path with
  | error => rfl
  | ok held =>
    -- Behind the look at the file both sides are the same steps, if not in the same form.
    change (if held = some content then _ else _ : Change Bool).run store =
      if held = some content then _ else _
    split <;> rfl

/-- A text that a file holds already is not written. -/
theorem run_publish_of_held (held : store.read (rooted directory path) = .ok (Utf8.encode content)) :
    (publish directory path content).run store = (.ok false, store) := by
  -- The bytes that are there decode to the text, so it is known to be the same.
  rw [run_publish, readText?_eq_some_iff.mpr held]
  simp

/-- Writing a text ends in one of four ways. -/
theorem publication (directory path content : Text) (store : Store) :
    Publication directory path content store ((publish directory path content).run store) := by
  -- Each step can fail for a reason of its own: reading, making the directories, and writing.
  rw [run_publish]
  cases known : store.readText? directory path with
  | error failure =>
    cases failure with
    | undecodable fault => exact .undecodable fault
    | unusable cause culprit => exact .unusable cause culprit (.refl _ _)
  | ok held =>
    simp only
    split
    next same => exact .current (readText?_eq_some_iff.mp (same ▸ known))
    next =>
      -- Directories that were made stay, whether or not the rest succeeds.
      have prepared := prepares_makeDirectories (Path.parent (Path.absolute directory path)) store
      rw [Change.run_bind]
      generalize (makeDirectories (Path.parent (Path.absolute directory path))).run store = ended at prepared ⊢
      obtain ⟨result, middle⟩ := ended
      cases result with
      | error failure =>
        cases failure with
        | undecodable fault => exact absurd rfl (prepared.usable fault)
        | unusable cause culprit => exact .unusable cause culprit prepared.way
      | ok done =>
        simp only [Change.run_bind, Change.run_attempt]
        cases written : middle.write (rooted directory path) (Utf8.encode content) with
        | error cause => exact .unusable cause path prepared.way
        | ok after =>
          obtain ⟨goal, stored⟩ := stored_of_write prepared.way written
          exact .written stored

end Writing

end AssetCatalog.Store
