import AssetCatalog.Proofs.Settings.Again

/-! Entries that are looked up after others were put, and the settings that are read from them. -/

namespace AssetCatalog

namespace Value

/-- A key that names the same entry as a text is that text. -/
theorem sameKey_text {key : Value} {name : Text} : sameKey key (.text name) = true ↔ key = .text name := by
  -- No number is equal to a text, whatever number it is.
  have never (number : Option Int) : (number.isSome && number == wholeKey? (.text name)) = false := by
    cases number <;> rfl
  cases key with
  | text other => simp [sameKey]
  | null | bool | int | real | list | dict => simp [sameKey, never]

end Value

namespace Entries

variable {name other : Text} {value : Value} {entries : Entries}

/-- The entry in front is found under its name, and behind it the others. -/
theorem get?_cons (entry : Value × Value) :
    get? name (entry :: entries) = if entry.1.sameKey (.text name) then some entry.2 else get? name entries := by
  -- The search stops at the entry in front, or goes on behind it.
  rw [get?, get?, List.find?_cons]
  split <;> simp [*]

/-- The entry that was put is found. -/
@[simp] theorem get?_put : (entries.put name value).get? name = some value := by
  -- The entry takes the place of the first one under the name, or comes behind all others.
  induction entries with
  | nil => simp [put, Value.putEntry, get?_cons, Value.sameKey]
  | cons entry rest ih =>
    rw [put, Value.putEntry]
    split
    next same => rw [get?_cons, if_pos same]
    next differs =>
      rw [get?_cons, if_neg differs]
      exact ih

/-- An entry that was put does not hide those with other names. -/
theorem get?_put_of_ne (differs : name ≠ other) : (entries.put name value).get? other = entries.get? other := by
  -- A key is the same text as one name only.
  have hidden {key : Value} (same : key.sameKey (.text name) = true) : ¬ key.sameKey (.text other) = true := by
    rw [Value.sameKey_text] at same ⊢
    simpa [same] using differs
  induction entries with
  | nil =>
    rw [put, Value.putEntry, get?_cons, if_neg (hidden (Value.sameKey_text.mpr rfl))]
  | cons entry rest ih =>
    rw [put, Value.putEntry]
    split
    -- The entry in front is replaced by one with the same name, so neither is found.
    next same => rw [get?_cons, get?_cons, if_neg (hidden same), if_neg (hidden same)]
    next =>
      rw [get?_cons, get?_cons]
      split
      · rfl
      · exact ih

/-- Of two entries that are put under one name, the last one stays. -/
theorem put_put (first second : Value) (entries : Entries) :
    (entries.put name first).put name second = entries.put name second := by
  -- The second entry meets the first one where that was put.
  induction entries with
  | nil => simp [put, Value.putEntry, Value.sameKey]
  | cons entry rest ih =>
    rw [put, put, put, Value.putEntry, Value.putEntry]
    split
    next same => rw [Value.putEntry, if_pos same]
    next differs =>
      rw [Value.putEntry, if_neg differs]
      exact congrArg (entry :: ·) ih

/-- Putting a setting does not change the entries that are none. -/
theorem filter_put (value : Value) (entries : Entries) (isField : Settings.isFieldName (.text name) = true) :
    ((entries.put name value).filter fun entry => !Settings.isFieldName entry.1) =
      entries.filter fun entry => !Settings.isFieldName entry.1 := by
  -- Both the entry that was put and the one whose place it takes are settings.
  induction entries with
  | nil => simp [put, Value.putEntry, isField]
  | cons entry rest ih =>
    rw [put, Value.putEntry]
    split
    -- The key names the setting, so neither the old entry nor the new one is kept.
    next same =>
      obtain same : entry.1 = _ := Value.sameKey_text.mp same
      simp [same, isField]
    next =>
      rw [List.filter_cons, List.filter_cons]
      split
      · exact congrArg (entry :: ·) ih
      · exact ih

end Entries

namespace Settings

section Places

variable {entries first second : Entries} {workingDirectory : Text}

/-- The output path among some entries. -/
def outputEntry (entries : Entries) : Value :=
  (entries.get? "output_path").getD .null

/-- Entries in which the same is found, but for the output path, give the same settings, but for that path. -/
theorem checkEntries_of_outputPath {mode : Mode} {defaults : Settings}
    (same : ∀ name : Text, "output_path".toList ≠ name → first.get? name = second.get? name)
    (others : (first.filter fun entry => !isFieldName entry.1) = second.filter fun entry => !isFieldName entry.1) :
    checkEntries mode defaults first =
      (fun settings => { settings with outputPath := outputText (outputEntry first) }) <$>
        checkEntries mode defaults second := by
  -- All other settings are checked by what is found under their names, and none of them by the output path.
  simp (disch := decide) only [checkEntries, others, same, map_bind, map_pure]
  rfl

/-- Another project directory in the entries gives the same settings, but for that directory. -/
theorem checkEntries_put_inputPath (mode : Mode) (defaults : Settings) (entries : Entries) (here there : Text) :
    checkEntries mode defaults (entries.put "input_path" (.text there)) =
      (fun settings => { settings with inputPath := Text.stripOr defaults.inputPath there }) <$>
        checkEntries mode defaults (entries.put "input_path" (.text here)) := by
  have isField : isFieldName (.text "input_path".toList) = true := rfl
  have others (text : Text) := Entries.filter_put (.text text) entries isField
  have kept {name text : Text} (differs : "input_path".toList ≠ name) :
      (entries.put "input_path" (.text text)).get? name = entries.get? name := Entries.get?_put_of_ne differs
  -- No text in this field is a fault.
  simp (disch := decide) only [checkEntries, others, Entries.get?_put, kept, Option.getD_some, checkText_text,
    pure_bind, map_bind, map_pure]

/-- A flag for the check of sources in the entries gives the same settings, but for that flag. -/
theorem checkEntries_put_checkHardcodedPaths (mode : Mode) (defaults : Settings) (entries : Entries)
    (here there : Bool) :
    checkEntries mode defaults (entries.put "check_hardcoded_paths" (.bool there)) =
      (fun settings => { settings with checkHardcodedPaths := there }) <$>
        checkEntries mode defaults (entries.put "check_hardcoded_paths" (.bool here)) := by
  have isField : isFieldName (.text "check_hardcoded_paths".toList) = true := rfl
  have others (flag : Bool) := Entries.filter_put (.bool flag) entries isField
  have kept {name : Text} {flag : Bool} (differs : "check_hardcoded_paths".toList ≠ name) :
      (entries.put "check_hardcoded_paths" (.bool flag)).get? name = entries.get? name :=
    Entries.get?_put_of_ne differs
  -- No truth value in this field is a fault.
  simp (disch := decide) only [checkEntries, others, Entries.get?_put, kept, Option.getD_some, checkFlag,
    pure_bind, map_bind, map_pure]

/-- Settings that are checked as others are, but for a change, are repaired as these, but for that change. -/
theorem repair_of_map {change : Settings → Settings}
    (same : checkEntries .lenient (defaults workingDirectory) second =
      change <$> checkEntries .lenient (defaults workingDirectory) first) :
    (repair workingDirectory (.dict second)).1 = change (repair workingDirectory (.dict first)).1 := by
  -- Validation is the check of the entries, run once, so that the change may be made behind it.
  have known := validate_lenient workingDirectory (.dict first)
  have changed := validate_lenient workingDirectory (.dict second)
  simp only [validate] at known changed
  rw [same, StateT.run_map, known] at changed
  exact congrArg Prod.fst (Except.ok.inj changed).symm

/-- The output path of repaired settings is the one among their entries. -/
theorem outputPath_repair (workingDirectory : Text) (entries : Entries) :
    (repair workingDirectory (.dict entries)).1.outputPath = outputText (outputEntry entries) :=
  congrArg outputPath (repair_of_map (checkEntries_of_outputPath (fun _ _ => rfl) rfl))

/-- Another project directory is all that it changes in the repaired settings. -/
theorem repair_put_inputPath (workingDirectory : Text) (entries : Entries) (here there : Text) :
    (repair workingDirectory (.dict (entries.put "input_path" (.text there)))).1 =
      { (repair workingDirectory (.dict (entries.put "input_path" (.text here)))).1 with
        inputPath := Text.stripOr workingDirectory there } :=
  repair_of_map (checkEntries_put_inputPath .lenient _ entries here there)

/-- Another flag for the check of sources is all that it changes in the repaired settings. -/
theorem repair_put_checkHardcodedPaths (workingDirectory : Text) (entries : Entries) (here there : Bool) :
    (repair workingDirectory (.dict (entries.put "check_hardcoded_paths" (.bool there)))).1 =
      { (repair workingDirectory (.dict (entries.put "check_hardcoded_paths" (.bool here)))).1 with
        checkHardcodedPaths := there } :=
  repair_of_map (checkEntries_put_checkHardcodedPaths .lenient _ entries here there)

/-- Another output path in front of the project directory is all that it changes in the repaired settings. -/
theorem repair_put_outputPath (workingDirectory : Text) (entries : Entries) (value : Value) (here : Text) :
    (repair workingDirectory (.dict ((entries.put "output_path" value).put "input_path" (.text here)))).1 =
      { (repair workingDirectory (.dict (entries.put "input_path" (.text here)))).1 with
        outputPath := outputText value } := by
  -- Of all that is looked up, the output path alone is another one.
  have found : outputEntry ((entries.put "output_path" value).put "input_path" (.text here)) = value := by
    rw [outputEntry, Entries.get?_put_of_ne (by decide), Entries.get?_put]
    rfl
  -- The project directory is the same on both sides, and other names were not put.
  have same (name : Text) (differs : "output_path".toList ≠ name) :
      ((entries.put "output_path" value).put "input_path" (.text here)).get? name =
        (entries.put "input_path" (.text here)).get? name := by
    by_cases here : "input_path".toList = name
    · rw [← here, Entries.get?_put, Entries.get?_put]
    · rw [Entries.get?_put_of_ne here, Entries.get?_put_of_ne here, Entries.get?_put_of_ne differs]
  have others : (((entries.put "output_path" value).put "input_path" (.text here)).filter
      fun entry => !isFieldName entry.1) =
      (entries.put "input_path" (.text here)).filter fun entry => !isFieldName entry.1 := by
    rw [Entries.filter_put _ _ rfl, Entries.filter_put _ _ rfl, Entries.filter_put _ _ rfl]
  rw [repair_of_map (checkEntries_of_outputPath same others), found]

end Places

end Settings

end AssetCatalog
