import AssetCatalog.Proofs.Settings.Entries

/-! A lenient validation refuses nothing, and gives every setting a value that a run can use. -/

namespace AssetCatalog

/-- The entries of a dictionary; a value of another kind has none. -/
def Value.ownEntries : Value → Entries
  | .dict entries => entries
  | _ => []

/-- The value under a key of any kind, where there is one. -/
def Entries.valueOf? (key : Value) (entries : Entries) : Option Value :=
  (entries.find? fun entry => Value.sameKey entry.1 key).map Prod.snd

namespace Settings

/-- A key that names the same entry as a setting is the name of that setting. -/
theorem isFieldName_of_sameKey {field key : Value} (isField : isFieldName field = true)
    (same : field.sameKey key = true) : isFieldName key = true := by
  cases field with
  | text name =>
    -- No number is the same key as a text.
    have never (number : Option Int) : ((Value.wholeKey? (.text name)).isSome &&
        Value.wholeKey? (.text name) == number) = false := rfl
    cases key with
    | text other =>
      obtain rfl : name = other := by simpa [Value.sameKey] using same
      exact isField
    | null | bool | int | real | list | dict => simp [Value.sameKey, never] at same
  | null | bool | int | real | list | dict => cases isField

/-- The entries in front of the other ones are those of settings. -/
theorem exists_front (settings : Settings) : ∃ front, settings.entries = front ++ settings.others ∧
    ∀ entry ∈ front, isFieldName entry.1 = true :=
  ⟨_, rfl, List.all_eq_true.mp rfl⟩

section Others

variable {key : Value}

/-- An entry of a setting has no key that names no setting. -/
theorem sameKey_eq_false {field : Value} (other : isFieldName key = false) (isField : isFieldName field = true) :
    field.sameKey key = false := by
  -- A key that is the same as that of a setting names the setting.
  refine Bool.eq_false_iff.mpr fun same => ?_
  rw [isFieldName_of_sameKey isField same] at other
  cases other

/-- Leaving out the settings does not change what is found under another key. -/
theorem valueOf?_filter (other : isFieldName key = false) (entries : Entries) :
    Entries.valueOf? key (entries.filter fun entry => !isFieldName entry.1) = entries.valueOf? key := by
  -- What is found under the key is not among the settings that are left out.
  have kept : (fun entry : Value × Value => decide ((!isFieldName entry.1) = true ∧ entry.1.sameKey key = true)) =
      fun entry => entry.1.sameKey key := by
    funext entry
    cases isField : isFieldName entry.1 with
    | false => simp
    | true => simp [sameKey_eq_false other isField]
  rw [Entries.valueOf?, Entries.valueOf?, List.find?_filter, kept]

/-- Under a key that names no setting, only the other entries of settings are found. -/
theorem valueOf?_entries (other : isFieldName key = false) (settings : Settings) :
    settings.entries.valueOf? key = Entries.valueOf? key settings.others := by
  obtain ⟨front, whole, isField⟩ := exists_front settings
  -- The settings come first, and none of them is under the key.
  have absent : (front.find? fun entry => entry.1.sameKey key) = none := by
    refine List.find?_eq_none.mpr fun entry member => ?_
    rw [sameKey_eq_false other (isField entry member)]
    exact Bool.false_ne_true
  rw [Entries.valueOf?, Entries.valueOf?, whole, List.find?_append, absent, Option.none_or]

end Others

/-- The entries of a dictionary that are no settings pass a check as they are. -/
theorem gives_others (mode : Mode) (defaults : Settings) (entries : Entries) :
    (checkEntries mode defaults entries).Gives fun settings =>
      settings.others = entries.filter fun entry => !isFieldName entry.1 := by
  -- Each of the ten checks in front may end as it likes; the entries come in at the end.
  rw [checkEntries]
  iterate 10 refine Check.gives_bind fun _ => ?_
  exact Check.gives_pure rfl

/-- Repaired settings keep the entries of a configuration that are no settings. -/
theorem others_repair (workingDirectory : Text) (config : Value) :
    (repair workingDirectory config).1.others = config.ownEntries.filter fun entry => !isFieldName entry.1 := by
  -- Only a dictionary has entries to keep.
  have ended := validate_lenient workingDirectory config
  cases config with
  | dict entries => exact gives_others .lenient (defaults workingDirectory) entries _ _ _ ended
  | null | bool | int | real | text | list => rfl

/-- A dictionary that a run can use in place of a configuration. -/
structure IsUsable (config : Value) (result : Entries) : Prop where
  /-- The project directory is a text, and not an empty one. -/
  inputPath : ∃ path, result.get? "input_path" = some (.text path) ∧ path ≠ []
  /-- The output path is a text without white space around it. -/
  outputPath : ∃ path, result.get? "output_path" = some (.text path) ∧ path.strip = path
  /-- The class name is an identifier, and no reserved word. -/
  className : ∃ name, result.get? "class_name" = some (.text name) ∧ Unicode.isIdentifier name = true ∧
    isKeyword name = false
  /-- The path base is a text, and not an empty one. -/
  pathBase : ∃ path, result.get? "path_base" = some (.text path) ∧ path ≠ []
  /-- The root directory is one path segment. -/
  rootDirectory : ∃ name, result.get? "root_directory" = some (.text name) ∧ IsSegment name
  /-- There is a truth value for keeping extensions. -/
  flattenExtensions : ∃ flag, result.get? "flatten_extensions" = some (.bool flag)
  /-- The overrides are a dictionary from distinct neat texts to truth values. -/
  flattenOverrides : ∃ flags : List (Text × Bool), NeatFlags flags ∧
    result.get? "flatten_overrides" = some (.dict (flags.map fun entry => (.text entry.1, .bool entry.2)))
  /-- The patterns are a list of neat texts. -/
  excludePatterns : ∃ patterns : List Text, (∀ pattern ∈ patterns, Text.Neat pattern) ∧
    result.get? "exclude_patterns" = some (.list (patterns.map .text))
  /-- There is a truth value for the check of sources. -/
  checkHardcodedPaths : ∃ flag, result.get? "check_hardcoded_paths" = some (.bool flag)
  /-- Under every other key stands what the configuration has there. -/
  others : ∀ key, isFieldName key = false → result.valueOf? key = config.ownEntries.valueOf? key

/-- Validated settings with the other entries of a configuration can be used in its place. -/
theorem isUsable_entries {workingDirectory : Text} {config : Value} {settings : Settings}
    (located : workingDirectory ≠ []) (known : Validated workingDirectory settings)
    (others : settings.others = config.ownEntries.filter fun entry => !isFieldName entry.1) :
    IsUsable config settings.entries where
  -- Each field holds what a validated one does, and the others are those of the configuration.
  inputPath := by
    refine ⟨settings.inputPath, rfl, ?_⟩
    rcases known.inputPath with same | neat
    · rwa [same]
    · exact neat.1
  outputPath := ⟨settings.outputPath, rfl, known.outputPath⟩
  className := by
    obtain ⟨identifier, free⟩ := Bool.and_eq_true_iff.mp known.className
    exact ⟨settings.className, rfl, identifier, by simpa using free⟩
  pathBase := ⟨settings.pathBase, rfl, known.pathBase.1⟩
  rootDirectory := ⟨settings.rootDirectory, rfl, known.rootDirectory⟩
  flattenExtensions := ⟨settings.flattenExtensions, rfl⟩
  flattenOverrides := ⟨settings.flattenOverrides, known.flattenOverrides, rfl⟩
  excludePatterns := ⟨settings.excludePatterns, known.excludePatterns, rfl⟩
  checkHardcodedPaths := ⟨settings.checkHardcodedPaths, rfl⟩
  others key other := by rw [valueOf?_entries other, others, valueOf?_filter other]

/--
A lenient validation of any value gives settings, and these can be used in its place.

The working directory stands in for a project directory that is missing, and is never without a name itself.
-/
theorem validate_usable (workingDirectory : Text) (located : workingDirectory ≠ []) (config : Value) :
    ∃ settings found, validate .lenient workingDirectory config = .ok (settings, found) ∧
      IsUsable config settings.entries := by
  -- The settings of a repair are valid, and keep the entries that are no settings.
  have usable := isUsable_entries located (validated_repair workingDirectory config) (others_repair _ config)
  exact ⟨_, _, validate_lenient workingDirectory config, usable⟩

/-- Of a configuration in which no setting has a value of its kind, the one entry that is no setting is kept. -/
theorem validate_usable_misfits :
    let config : Value := .dict [entry "input_path" (.text " ".toList), entry "output_path" (.int 5),
      entry "class_name" (.text "class".toList), entry "path_base" (.list []),
      entry "root_directory" (.text "a/b".toList), entry "flatten_extensions" (.text "perhaps".toList),
      entry "flatten_overrides" (.dict [(.text " *.css ".toList, .null), (.int 2, .bool true)]),
      entry "exclude_patterns" (.text "a, ,b ".toList), entry "author" (.int 7)]
    ['/'] ≠ [] ∧ ∃ settings found, validate .lenient ['/'] config = .ok (settings, found) ∧
      IsUsable config settings.entries ∧ settings.entries.valueOf? (.text "author".toList) = some (.int 7) := by
  intro config
  -- The settings are not computed: that the author is kept is what the law says of other entries.
  obtain ⟨settings, found, ended, usable⟩ := validate_usable ['/'] (by decide) config
  exact ⟨by decide, settings, found, ended, usable, (usable.others _ rfl).trans rfl⟩

end Settings

end AssetCatalog
