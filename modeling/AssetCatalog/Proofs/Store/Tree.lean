import AssetCatalog.Store.Entry
import Mathlib.Data.List.Nodup

/-! What is found at each place of a tree after an entry was put into one of its directories. -/

namespace AssetCatalog.Store.Entry

/-- An entry without what a directory holds. -/
def face : Entry → Entry
  | directory name _ => directory name []
  | other => other

/-- An entry without what a directory or a file holds. -/
def kind : Entry → Entry
  | file name _ => file name []
  | link name target => link name target
  | directory name _ => directory name []

/-- Entries with the same face are of one kind. -/
theorem kind_face (entry : Entry) : entry.face.kind = entry.kind := by
  cases entry <;> rfl

/-- An entry of the kind of a directory is one. -/
theorem isDirectory_kind (entry : Entry) : entry.kind.isDirectory = entry.isDirectory := by
  cases entry <;> rfl

/-- An entry of the kind of a file is one. -/
theorem isFile_kind (entry : Entry) : entry.kind.isFile = entry.isFile := by
  cases entry <;> rfl

/-- A renamed entry has its new name. -/
@[simp] theorem name_renamed (name : Text) (entry : Entry) : (entry.renamed name).name = name := by
  cases entry <;> rfl

/-- What is no directory holds nothing. -/
theorem child?_of_not_isDirectory {entry : Entry} (other : entry.isDirectory = false) (name : Text) :
    entry.child? name = none := by
  -- Only a directory has entries to search.
  cases entry with
  | directory => simp [isDirectory] at other
  | file | link => rfl

/-- A child is found under its own name. -/
theorem name_of_child? {entry child : Entry} {name : Text} (found : entry.child? name = some child) :
    child.name = name := by
  simpa using List.find?_some found

section Places

variable {root : Entry}

/-- A place is looked up by going on from a place on the way. -/
theorem at?_append (place rest : Place) (root : Entry) :
    root.at? (place ++ rest) = (root.at? place).bind (at? rest) := by
  -- Step by step: where one leads nowhere, nothing is found in either way.
  induction place generalizing root with
  | nil => rfl
  | cons step place ih =>
    simp only [List.cons_append, at?]
    cases root.child? step with
    | none => rfl
    | some child => exact ih child

/-- One more step leads to a child of what is at a place. -/
theorem at?_concat (place : Place) (step : Text) (root : Entry) :
    root.at? (place ++ [step]) = (root.at? place).bind (child? step) := by
  -- The last step is a place by itself, of one name.
  rw [at?_append]
  congr 1
  funext entry
  cases found : entry.child? step <;> simp [at?, found]

/-- What lies behind a step lies in a directory, and has the step for its name. -/
theorem of_at?_concat {place : Place} {step : Text} {entry : Entry}
    (found : root.at? (place ++ [step]) = some entry) :
    (root.at? place).any isDirectory = true ∧ entry.name = step := by
  -- Only a directory has children, and each is found under its name.
  rw [at?_concat, Option.bind_eq_some_iff] at found
  obtain ⟨above, here, child⟩ := found
  refine ⟨?_, name_of_child? child⟩
  cases kind : above.isDirectory with
  | true => simp [here, kind]
  | false => simp [child?_of_not_isDirectory kind] at child

/-- What is found anywhere but at the root lies in a directory. -/
theorem isDirectory_at?_dropLast {place : Place} (below : place ≠ []) (found : (root.at? place).isSome) :
    (root.at? place.dropLast).any isDirectory = true := by
  -- The place is that of its directory with one name more.
  obtain ⟨entry, here⟩ := Option.isSome_iff_exists.mp found
  rw [← List.dropLast_concat_getLast below] at here
  exact (of_at?_concat here).1

/-- Nothing lies behind a place where there is no directory. -/
theorem at?_append_eq_none {place rest : Place} (below : rest ≠ [])
    (other : (root.at? place).any isDirectory = false) : root.at? (place ++ rest) = none := by
  obtain ⟨step, rest, rfl⟩ := List.exists_cons_of_ne_nil below
  -- The next step is looked up in what stands there, which has no children.
  rw [at?_append]
  cases here : root.at? place with
  | none => rfl
  | some entry =>
    have kind : entry.isDirectory = false := by simpa [here] using other
    simp [at?, child?_of_not_isDirectory kind]

end Places

section Putting

/-- Among entries, the one that was put in is found under its name, and all others as before. -/
theorem find?_putAmong (entry : Entry) (entries : List Entry) (name : Text) :
    (putAmong entry entries).find? (fun child => child.name == name) =
      if name = entry.name then some entry else entries.find? fun child => child.name == name := by
  -- The entry takes the place of the first one of its name, or comes behind all of them.
  induction entries with
  | nil =>
    by_cases same : name = entry.name
    · simp [putAmong, same]
    · simp [putAmong, same, Ne.symm same]
  | cons other rest ih =>
    -- Where the first entry has the name it is replaced, and else the entry goes behind it.
    rw [putAmong]
    by_cases here : other.name = entry.name
    · by_cases same : name = entry.name
      · simp [here, same]
      · simp [here, same, Ne.symm same]
    · by_cases same : name = entry.name
      · subst same
        simpa [here] using ih
      · by_cases first : other.name = name
        · simp [first, same]
        · simpa [here, same, first] using ih

/-- A change somewhere below an entry leaves its name. -/
@[simp] theorem name_change (alter : List Entry → List Entry) (place : Place) (entry : Entry) :
    (change alter place entry).name = entry.name := by
  cases place <;> cases entry <;> rfl

/-- A change somewhere below an entry leaves its face. -/
theorem face_change (alter : List Entry → List Entry) (place : Place) (entry : Entry) :
    (change alter place entry).face = entry.face := by
  cases place <;> cases entry <;> rfl

/-- A change farther down changes the child through which the way leads, and no other. -/
theorem child?_change_cons (alter : List Entry → List Entry) (step : Text) (place : Place) (entry : Entry)
    (name : Text) :
    (change alter (step :: place) entry).child? name =
      (entry.child? name).map fun child => if name = step then change alter place child else child := by
  cases entry with
  | file | link => rfl
  | directory own entries =>
    -- Changed or not, a child keeps the name under which it is looked up.
    have named : ((fun child => child.name == name) ∘ fun child : Entry =>
        if child.name = step then change alter place child else child) = fun child => child.name == name := by
      funext child
      simp only [Function.comp_apply]
      split <;> simp
    -- So the child that is found is found changed, if it is the one on the way.
    simp only [change, child?, Entry.entries, List.find?_map, named]
    cases found : entries.find? fun child => child.name == name with
    | none => rfl
    | some child =>
      have same : child.name = name := by simpa using List.find?_some found
      simp [same]

/-- An entry that was put into a directory is found there, with what it holds. -/
theorem at?_put (entry : Entry) (rest : Place) : ∀ (place : Place) {root : Entry},
    (root.at? place).any isDirectory = true →
      (root.put place entry).at? (place ++ entry.name :: rest) = entry.at? rest := by
  -- The way to the directory leads through changed children, down to the one that holds the entry.
  intro place
  induction place with
  | nil =>
    intro root directory
    cases root with
    | file | link => simp [at?, isDirectory] at directory
    | directory own entries =>
      -- The directory itself holds the entry under its name now.
      simp [put, change, at?, child?, Entry.entries, find?_putAmong]
  | cons step place ih =>
    intro root directory
    rw [at?] at directory
    rw [put, List.cons_append, at?, child?_change_cons]
    cases found : root.child? step with
    | none => simp [found] at directory
    | some child =>
      have deeper := @ih child (by simpa [found] using directory)
      simpa [put] using deeper

/-- Elsewhere a tree shows the same as before an entry was put into one of its directories. -/
theorem face_at?_put (entry : Entry) : ∀ (place : Place) (root : Entry) {goal : Place},
    ¬ place ++ [entry.name] <+: goal →
      ((root.put place entry).at? goal).map face = (root.at? goal).map face := by
  -- The goal parts from the way to the entry at some step, or lies on it.
  intro place
  induction place with
  | nil =>
    intro root goal apart
    cases goal with
    | nil => simp [put, at?, face_change]
    | cons step goal =>
      -- Of the children of the directory, the others are those that they were.
      have other : step ≠ entry.name := by
        rintro rfl
        simp at apart
      cases root with
      | file | link => rfl
      | directory own entries =>
        simp [put, change, at?, child?, Entry.entries, find?_putAmong, other]
  | cons step place ih =>
    intro root goal apart
    cases goal with
    | nil => simp [put, at?, face_change]
    | cons next goal =>
      rw [put, at?, at?, child?_change_cons]
      cases found : root.child? next with
      | none => rfl
      | some child =>
        by_cases same : next = step
        · subst same
          have deeper : ¬ place ++ [entry.name] <+: goal := by simpa using apart
          simpa [put] using ih child deeper
        · simp [same]

end Putting

section Distinct

/-- A tree whose directories hold each name once. -/
inductive Distinct : Entry → Prop
  /-- A file holds no names. -/
  | file (name : Text) (content : Bytes) : Distinct (.file name content)
  /-- A link holds no names. -/
  | link (name target : Text) : Distinct (.link name target)
  /-- The names in a directory are distinct, as are those in the directories it holds. -/
  | directory {name : Text} {entries : List Entry} (names : (entries.map Entry.name).Nodup)
      (deeper : ∀ child ∈ entries, Distinct child) : Distinct (.directory name entries)

/-- The names of what a directory holds are distinct. -/
theorem Distinct.names {entry : Entry} (distinct : Distinct entry) : (entry.entries.map name).Nodup := by
  -- What is no directory holds no names at all.
  cases distinct with
  | file | link => exact List.nodup_nil
  | directory names deeper => exact names

/-- What a directory holds has distinct names too. -/
theorem Distinct.deeper {entry child : Entry} (distinct : Distinct entry) (member : child ∈ entry.entries) :
    Distinct child := by
  -- What is no directory holds nothing.
  cases distinct with
  | file | link => cases member
  | directory names deeper => exact deeper child member

/-- An entry that holds nothing has no names to tell apart. -/
theorem Distinct.of_bare {entry : Entry} (bare : entry.entries = []) : Distinct entry := by
  -- Only a directory could hold something.
  cases entry with
  | file => exact .file _ _
  | link => exact .link _ _
  | directory own entries =>
    obtain rfl : entries = [] := bare
    exact .directory List.nodup_nil (by simp)

/-- What stands at a place has distinct names too. -/
theorem Distinct.at? {place : Place} : ∀ {root entry : Entry}, Distinct root →
    root.at? place = some entry → Distinct entry := by
  -- Each step leads to a child, in which names are as distinct as in its directory.
  induction place with
  | nil =>
    intro root entry distinct found
    exact Option.some.inj found ▸ distinct
  | cons step place ih =>
    intro root entry distinct found
    rw [Entry.at?, Option.bind_eq_some_iff] at found
    obtain ⟨child, named, inside⟩ := found
    exact ih (distinct.deeper (List.mem_of_find?_eq_some named)) inside

/-- Of distinct names, each is that of one entry. -/
theorem Distinct.child?_eq_some_iff {entry child : Entry} (distinct : Distinct entry) :
    entry.child? child.name = some child ↔ child ∈ entry.entries := by
  -- The first entry of the name is the only one.
  constructor
  · exact List.mem_of_find?_eq_some
  · intro member
    obtain ⟨other, found⟩ : ∃ other, entry.child? child.name = some other := by
      rw [← Option.isSome_iff_exists, child?, List.find?_isSome]
      exact ⟨child, member, by simp⟩
    rw [found, List.inj_on_of_nodup_map distinct.names (List.mem_of_find?_eq_some found) member
      (name_of_child? found)]

/-- An entry that is put among others has its name, and these keep theirs. -/
theorem map_name_putAmong (entry : Entry) (entries : List Entry) :
    (putAmong entry entries).map name =
      if entry.name ∈ entries.map name then entries.map name else entries.map name ++ [entry.name] := by
  -- The entry takes the place of one with its name, or comes last.
  induction entries with
  | nil => rfl
  | cons other rest ih =>
    rw [putAmong]
    by_cases here : other.name = entry.name
    · simp [here]
    · rw [if_neg here, List.map_cons, ih]
      by_cases further : entry.name ∈ rest.map name
      · simp [further]
      · simp [further, Ne.symm here]

/-- Among others there is nothing but them and the entry that was put there. -/
theorem mem_of_mem_putAmong {entry child : Entry} {entries : List Entry}
    (member : child ∈ putAmong entry entries) : child = entry ∨ child ∈ entries := by
  -- The entry replaces one of the others, or comes behind them.
  induction entries with
  | nil => exact .inl (List.mem_singleton.mp member)
  | cons other rest ih =>
    rw [putAmong] at member
    split at member
    · exact (List.mem_cons.mp member).imp_right (List.mem_cons_of_mem _)
    · rcases List.mem_cons.mp member with rfl | further
      · exact .inr List.mem_cons_self
      · exact (ih further).imp_right (List.mem_cons_of_mem _)

/-- Names stay distinct when an entry with distinct names is put somewhere. -/
theorem Distinct.put {entry : Entry} (new : Distinct entry) : ∀ (place : Place) {root : Entry},
    Distinct root → Distinct (root.put place entry) := by
  -- Names change in the one directory into which the entry is put, and there by a new name at most.
  intro place
  induction place with
  | nil =>
    intro root distinct
    cases distinct with
    | file => exact .file _ _
    | link => exact .link _ _
    | directory names deeper =>
      refine .directory ?_ fun child member => ?_
      · rw [map_name_putAmong]
        split
        · exact names
        next fresh => exact names.append (List.nodup_singleton _) (by simpa using fresh)
      · rcases mem_of_mem_putAmong member with rfl | old
        · exact new
        · exact deeper child old
  | cons step place ih =>
    intro root distinct
    cases distinct with
    | file => exact .file _ _
    | link => exact .link _ _
    | directory names deeper =>
      refine .directory ?_ fun child member => ?_
      · -- What is changed keeps its name.
        rw [List.map_map]
        convert names using 2
        funext child
        simp only [Function.comp_apply]
        split <;> simp
      · obtain ⟨old, there, rfl⟩ := List.mem_map.mp member
        split
        · exact ih (deeper old there)
        · exact deeper old there

end Distinct

end AssetCatalog.Store.Entry
