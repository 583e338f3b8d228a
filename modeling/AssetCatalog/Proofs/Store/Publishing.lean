import AssetCatalog.Proofs.Store.Document

/-! When writing a text where it differs leaves the file with just that text, whatever the file held before. -/

namespace AssetCatalog.Store

variable {store ready after : Store} {directory path content : Text} {bytes : Bytes}

/-- A path to which a text can be written: its directories can be made, and then it leads to a place for a file. -/
def Writable (directory path : Text) (store : Store) : Prop :=
  ∃ ready place, (makeDirectories (Path.parent (Path.absolute directory path))).run store = (.ok (), ready) ∧
    ready.filePlace (rooted directory path) = .ok place

/-- Whether a text can be written to a path. -/
def isWritable (directory path : Text) (store : Store) : Bool :=
  let ended := (makeDirectories (Path.parent (Path.absolute directory path))).run store
  ended.1.toOption.isSome && (ended.2.filePlace (rooted directory path)).toOption.isSome

/-- Whether a text can be written is found out by making the directories and looking for the place behind them. -/
theorem isWritable_iff : isWritable directory path store = true ↔ Writable directory path store := by
  rw [isWritable, Writable]
  -- The check tries to make the directories, and that is all it needs to know.
  generalize (makeDirectories (Path.parent (Path.absolute directory path))).run store = ended
  obtain ⟨result, ready⟩ := ended
  constructor
  · intro checked
    obtain ⟨made, found⟩ := Bool.and_eq_true_iff.mp checked
    cases result with
    | error failure => cases made
    | ok done =>
      -- With the directories made, what is left to find out is whether there is a place for the file.
      cases free : ready.filePlace (rooted directory path) with
      | error cause => simp [free, Except.toOption] at found
      | ok place => exact ⟨ready, place, rfl, free⟩
  · rintro ⟨after, place, made, free⟩
    cases made
    simp [free, Except.toOption]

instance : Decidable (Writable directory path store) :=
  decidable_of_iff _ isWritable_iff

/-- Writing a text ends with the file holding its bytes, and tells whether the file held any others or none before. -/
structure Published (directory path content : Text) (before after : Store) (written : Bool) : Prop where
  /-- The file holds the bytes of the text and no others. -/
  held : after.read (rooted directory path) = .ok (Utf8.encode content)
  /-- It is told that the text was written exactly if the file did not hold it. -/
  told : written = true ↔ before.read (rooted directory path) ≠ .ok (Utf8.encode content)
  /-- If it was not written, nothing has changed. -/
  kept : written = false → after = before

/-- Writing a text succeeds and leaves the file with that text. -/
def Publishes (directory path content : Text) (store : Store) : Prop :=
  ∃ written after, (publish directory path content).run store = (.ok written, after) ∧
    Published directory path content store after written

section Reading

/-- What a file is known to hold is the text of its bytes, or why they are none. -/
theorem readText?_of_read (held : store.read (rooted directory path) = .ok bytes) :
    store.readText? directory path = some <$> (Utf8.decode bytes).mapError Failure.undecodable := by
  rw [readText?, if_pos (isFile_of_read held), readText, held]

/-- Where there is no file, no text is known. -/
theorem readText?_of_not_isFile (absent : store.isFile (rooted directory path) = false) :
    store.readText? directory path = .ok none := by
  -- Nothing is read unless there is a file.
  rw [readText?, absent]
  rfl

/-- A file can be read. -/
theorem exists_read_of_isFile (file : store.isFile path = true) : ∃ bytes, store.read path = .ok bytes := by
  -- The path leads to an entry that is a file, and a file has a content.
  rw [isFile, find?] at file
  cases led : store.place path true with
  | error cause => simp [led] at file
  | ok goal =>
    rw [led] at file
    cases found : store.root.at? goal with
    | none => simp [found] at file
    | some entry =>
      cases entry with
      | file name bytes => exact ⟨bytes, read_eq_ok_iff.mpr ⟨goal, name, led, found⟩⟩
      | link | directory => simp [found, Entry.isFile] at file

end Reading

section Writing

/-- Bytes that are no text stay in their file, and writing another text to it fails because of them. -/
theorem run_publish_of_fault {fault : Utf8.Fault} (held : store.read (rooted directory path) = .ok bytes)
    (wrong : Utf8.decode bytes = .error fault) :
    (publish directory path content).run store = (.error (.undecodable fault), store) := by
  -- The old text is decoded before anything is written, and that fails.
  rw [run_publish, readText?_of_read held, wrong]
  rfl

/-- A text that is not in its file is written to it, where it can be. -/
theorem publishes_of_missing (writable : Writable directory path store) {known : Option Text}
    (read : store.readText? directory path = .ok known) (missing : known ≠ some content) :
    Publishes directory path content store := by
  obtain ⟨ready, place, made, free⟩ := writable
  have written : ready.write (rooted directory path) (Utf8.encode content) =
      .ok (ready.putAt place (.file [] (Utf8.encode content))) := by
    rw [write, free]
    rfl
  -- The directories are made first, and they are all that changes apart from the file.
  have prepared := prepares_makeDirectories (Path.parent (Path.absolute directory path)) store
  rw [made] at prepared
  obtain ⟨goal, stored⟩ := stored_of_write prepared.way written
  refine ⟨true, _, ?_, stored.read, iff_of_true rfl fun held => missing ?_, fun wrong => by cases wrong⟩
  · -- The text is written as it is missing, and the file holds it from then on.
    rw [run_publish, read]
    simp only [if_neg missing, Change.run_bind, made, Change.run_attempt, written]
    rfl
  · exact Except.ok.inj (read.symm.trans (readText?_eq_some_iff.mpr held))

/-- A text can be published where no file is, or one that holds a text. -/
theorem publishes_of_text (writable : Writable directory path store)
    (text : ∀ bytes, store.read (rooted directory path) = .ok bytes → ∃ old, Utf8.encode old = bytes) :
    Publishes directory path content store := by
  cases file : store.isFile (rooted directory path) with
  | false => exact publishes_of_missing writable (readText?_of_not_isFile file) (by simp)
  | true =>
    obtain ⟨bytes, held⟩ := exists_read_of_isFile file
    obtain ⟨old, rfl⟩ := text bytes held
    by_cases same : old = content
    · -- The text is there already, and is left as it is.
      subst same
      exact ⟨false, store, run_publish_of_held held, held, iff_of_false (by simp) (fun differs => differs held),
        fun _ => rfl⟩
    · have known : store.readText? directory path = .ok (some old) := readText?_eq_some_iff.mpr held
      exact publishes_of_missing writable known (by simpa using same)

end Writing

/--
A text can be published exactly where no file is, or one whose bytes are those of a text.

A file with any other bytes is never replaced: writing to it fails because of them, and nothing changes.
-/
theorem publishes_iff (writable : Writable directory path store) :
    (Publishes directory path content store ↔
      ∀ bytes, store.read (rooted directory path) = .ok bytes → ∃ old, Utf8.encode old = bytes) ∧
    ∀ bytes, store.read (rooted directory path) = .ok bytes → (¬ ∃ old, Utf8.encode old = bytes) →
      ∃ fault, Utf8.decode bytes = .error fault ∧
        (publish directory path content).run store = (.error (.undecodable fault), store) := by
  have refused : ∀ bytes, store.read (rooted directory path) = .ok bytes → (¬ ∃ old, Utf8.encode old = bytes) →
      ∃ fault, Utf8.decode bytes = .error fault ∧
        (publish directory path content).run store = (.error (.undecodable fault), store) := by
    intro bytes held other
    -- Bytes that decode are those of the text they decode to.
    cases decoded : Utf8.decode bytes with
    | ok old => exact absurd ⟨old, (Utf8.decode_eq_ok_iff.mp decoded).symm⟩ other
    | error fault => exact ⟨fault, rfl, run_publish_of_fault held decoded⟩
  refine ⟨⟨fun publishes bytes held => ?_, publishes_of_text writable⟩, refused⟩
  -- A run that succeeded did not fail because of the bytes.
  by_contra other
  obtain ⟨written, after, ended, -⟩ := publishes
  obtain ⟨fault, -, failed⟩ := refused bytes held other
  rw [failed] at ended
  cases ended

/-- A text with a byte order mark and carriage returns is replaced, and one is written where a directory is missing. -/
theorem publishes_iff_marked :
    let store : Store := ⟨.directory [] [.file ['a'] [0xEF, 0xBB, 0xBF, 0x0D, 0x0A, 0x0D]]⟩
    Writable ['/'] ['/', 'a'] store ∧ Publishes ['/'] ['/', 'a'] ['\n'] store ∧
      Writable ['/'] ['b', '/', 'a'] store ∧ Publishes ['/'] ['b', '/', 'a'] ['\n'] store := by
  -- The old bytes are those of a text, as the theorem asks, and the other file is missing.
  intro store
  have writable : Writable ['/'] ['/', 'a'] store := by decide +kernel
  have writableBelow : Writable ['/'] ['b', '/', 'a'] store := by decide +kernel
  have held : store.read (rooted ['/'] ['/', 'a']) = .ok [0xEF, 0xBB, 0xBF, 0x0D, 0x0A, 0x0D] := rfl
  have missing : store.read (rooted ['/'] ['b', '/', 'a']) = .error .missing := rfl
  refine ⟨writable, (publishes_iff writable).1.mpr fun bytes read => ?_, writableBelow,
    (publishes_iff writableBelow).1.mpr fun bytes read => ?_⟩
  · obtain rfl := Except.ok.inj (held.symm.trans read)
    exact ⟨['\uFEFF', '\r', '\n', '\r'], by decide⟩
  · cases missing.symm.trans read

/-- A file that holds a single byte which starts no character is not replaced by the text that is to be written. -/
theorem not_publishes :
    ¬ ∀ directory path content store, Writable directory path store → Publishes directory path content store := by
  -- The one byte is no text, so that the old content cannot be compared.
  intro all
  let store : Store := ⟨.directory [] [.file ['a'] [0xFF]]⟩
  have writable : Writable ['/'] ['/', 'a'] store := by decide +kernel
  obtain ⟨written, after, ended, -⟩ := all ['/'] ['/', 'a'] ['x'] store writable
  have held : store.read (rooted ['/'] ['/', 'a']) = .ok [0xFF] := rfl
  rw [run_publish_of_fault held rfl] at ended
  cases ended

end AssetCatalog.Store
