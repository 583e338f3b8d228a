import AssetCatalog.Proofs.Name.Shape
import AssetCatalog.Proofs.Settings.Check
import AssetCatalog.Proofs.Settings.Modes
import AssetCatalog.Proofs.Text.Trimming
import Mathlib.Data.List.Nodup

/-! A validation of settings that were validated before: it finds nothing, and changes blanks at most. -/

namespace AssetCatalog

namespace Unicode

/-- No white space continues a word. -/
theorem isBlank_of_continuesWord {c : Char} (continues : continuesWord c = true) : isBlank c = false := by
  -- White space is a space, a separator or a control, and of these only listed signs continue words.
  have controls : ∀ n ∈ addedToWords, isBlank (Char.ofNat n) = false := by decide +kernel
  unfold continuesWord at continues
  cases kind : category c
  case space | separator | control =>
    have listed := controls c.toNat (by simpa [kind] using continues)
    rwa [Char.ofNat_toNat] at listed
  all_goals simp [isBlank, kind]

end Unicode

namespace Settings

open Text (Neat)

/-- A name of a directory, without any separator. -/
def IsSegment (name : Text) : Prop :=
  name ≠ [] ∧ '/' ∉ name ∧ '\\' ∉ name

/-- Neat patterns, each of them with one flag. -/
def NeatFlags (flags : List (Text × Bool)) : Prop :=
  (∀ pattern ∈ flags.map Prod.fst, Neat pattern) ∧ (flags.map Prod.fst).Nodup

/-- What is known of validated settings. -/
structure Validated (workingDirectory : Text) (settings : Settings) : Prop where
  /-- The project directory is a neat text, or the working directory. -/
  inputPath : settings.inputPath = workingDirectory ∨ Neat settings.inputPath
  /-- No white space surrounds the output path. -/
  outputPath : settings.outputPath.strip = settings.outputPath
  /-- The class name can be written as a name. -/
  className : (Unicode.isIdentifier settings.className && !isKeyword settings.className) = true
  /-- The path base is neat. -/
  pathBase : Neat settings.pathBase
  /-- The root directory is one path segment. -/
  rootDirectory : IsSegment settings.rootDirectory
  /-- The exclusion patterns are neat. -/
  excludePatterns : ∀ pattern ∈ settings.excludePatterns, Neat pattern
  /-- The patterns with flags are neat, and each has one flag. -/
  flattenOverrides : NeatFlags settings.flattenOverrides
  /-- The other entries are no settings. -/
  others : ∀ entry ∈ settings.others, isFieldName entry.1 = false

section Gives

variable {mode : Mode} {field : Text}

/-- A text that was checked is neat, or the fallback. -/
theorem gives_checkText (fallback : Text) (value : Value) :
    (checkText mode field fallback value).Gives fun checked => checked = fallback ∨ Neat checked := by
  -- A text is stripped, and nothing or a value of another type is the fallback.
  unfold checkText
  split
  · exact Check.gives_pure (.inl rfl)
  next text => exact Check.gives_pure (Text.stripOr_cases fallback text)
  · exact Check.gives_bind fun _ => Check.gives_pure (.inl rfl)

/-- The parts of a text between commas are neat. -/
theorem neat_of_mem_splitList {text part : Text} (member : part ∈ splitList text) : Neat part := by
  -- The parts were stripped, and those left blank by that were dropped.
  obtain ⟨known, filled⟩ := List.mem_filter.mp member
  obtain ⟨raw, _, rfl⟩ := List.mem_map.mp known
  exact Text.neat_strip (by simpa using filled)

/-- The items of a list that are kept are neat. -/
theorem gives_checkItems (items : List Value) :
    ∀ index, (checkItems mode field index items).Gives fun checked => ∀ text ∈ checked, Neat text := by
  -- Each item is passed over, or put in front of those that are kept behind it.
  induction items with
  | nil => exact fun index => Check.gives_pure (by simp)
  | cons item rest ih =>
    intro index
    cases item with
    | text value =>
      refine (ih (index + 1)).bind fun kept neat => Check.gives_pure ?_
      cases blank : value.strip.isEmpty with
      | true => exact neat
      | false => exact List.forall_mem_cons.mpr ⟨Text.neat_strip blank, neat⟩
    | null | bool | int | real | list | dict => exact Check.gives_bind fun _ => ih (index + 1)

/-- Texts that were checked are neat, if those of the fallback are. -/
theorem gives_checkTexts {fallback : List Text} (neat : ∀ text ∈ fallback, Neat text) (value : Value) :
    (checkTexts mode field fallback value).Gives fun checked => ∀ text ∈ checked, Neat text := by
  -- A text is split into neat parts, a list has its items checked, and anything else leaves the fallback.
  unfold checkTexts
  split
  · exact Check.gives_pure neat
  · exact Check.gives_bind fun _ => Check.gives_pure fun part => neat_of_mem_splitList
  · exact gives_checkItems _ 0
  · exact Check.gives_bind fun _ => Check.gives_pure neat

/-- Putting a flag adds its pattern where it is new. -/
theorem map_fst_putFlag (pattern : Text) (flag : Bool) (flags : List (Text × Bool)) :
    (putFlag pattern flag flags).map Prod.fst =
      if pattern ∈ flags.map Prod.fst then flags.map Prod.fst else flags.map Prod.fst ++ [pattern] := by
  -- A pattern that is there keeps its place when it takes another flag.
  induction flags with
  | nil => simp [putFlag]
  | cons entry rest ih =>
    rw [putFlag]
    by_cases here : entry.1 = pattern
    · simp [here]
    · by_cases later : pattern ∈ rest.map Prod.fst
      · simp only [if_pos later] at ih
        simp [here, ih, later]
      · simp only [if_neg later] at ih
        simp [here, Ne.symm here, ih, later]

/-- Where no two flags are for one pattern, this is so after one more was put. -/
theorem nodup_putFlag {flags : List (Text × Bool)} (distinct : (flags.map Prod.fst).Nodup) (pattern : Text)
    (flag : Bool) : ((putFlag pattern flag flags).map Prod.fst).Nodup := by
  -- A pattern that is there keeps its place, and a new one comes last.
  rw [map_fst_putFlag]
  split
  · exact distinct
  next new => simpa using List.Nodup.concat new distinct

/-- Putting a flag for a neat pattern keeps patterns neat. -/
theorem NeatFlags.put {flags : List (Text × Bool)} {pattern : Text} (neat : NeatFlags flags)
    (fits : Neat pattern) (flag : Bool) : NeatFlags (putFlag pattern flag flags) := by
  -- The patterns are those from before, and the new one if it was not among them.
  refine ⟨fun other member => ?_, nodup_putFlag neat.2 pattern flag⟩
  rw [map_fst_putFlag] at member
  split at member
  · exact neat.1 other member
  · rcases List.mem_append.mp member with known | here
    · exact neat.1 other known
    · exact List.mem_singleton.mp here ▸ fits

/-- The flags of entries have neat patterns, if those found before do. -/
theorem gives_checkOverrides (entries : Entries) : ∀ {found : List (Text × Bool)},
    NeatFlags found → (checkOverrides mode field found entries).Gives NeatFlags := by
  -- null | bool| A key that is no text is left out.
  -- A blank pattern is left out, and any other is put among the flags without the white space around it.
  induction entries with
  | nil => exact fun neat => Check.gives_pure neat
  | cons entry rest ih =>
    intro found neat
    obtain ⟨key, value⟩ := entry
    cases key with
    | text pattern =>
      rw [checkOverrides]
      cases blank : pattern.strip.isEmpty with
      | true => exact Check.gives_bind fun _ => ih neat
      | false => exact Check.gives_bind fun flag => ih (neat.put (Text.neat_strip blank) flag)
    | null | bool | int | real | list | dict => exact Check.gives_bind fun _ => ih neat

/-- Flags that were checked have neat patterns. -/
theorem gives_checkFlags (value : Value) : (checkFlags mode field value).Gives NeatFlags := by
  have none : NeatFlags [] := ⟨by simp, List.nodup_nil⟩
  -- Only a mapping has flags, and they are checked one by one from none.
  unfold checkFlags
  split
  · exact Check.gives_pure none
  · exact gives_checkOverrides _ none
  · exact Check.gives_bind fun _ => Check.gives_pure none

/-- A class name that was checked can be written as a name, if the fallback can. -/
theorem gives_checkClassName_name {fallback : Text}
    (valid : (Unicode.isIdentifier fallback && !isKeyword fallback) = true) (name : Text) :
    (checkClassName mode fallback name).Gives fun checked =>
      (Unicode.isIdentifier checked && !isKeyword checked) = true := by
  -- A name that cannot be written is exchanged for the fallback.
  rw [checkClassName]
  split
  next found => exact Check.gives_pure found
  · exact Check.gives_bind fun _ => Check.gives_pure valid

/-- A root directory that was checked is one path segment, if the fallback is. -/
theorem gives_checkRootDirectory {fallback : Text} (segment : IsSegment fallback) (name : Text) :
    (checkRootDirectory mode fallback name).Gives IsSegment := by
  rw [checkRootDirectory]
  dsimp only
  split
  next single =>
    -- Every backslash was made a slash before the slashes were looked for.
    have cleaned : IsSegment (Text.trim (· == '/') (Text.replaceChar '\\' '/' name)) := by
      obtain ⟨filled, whole⟩ := Bool.and_eq_true_iff.mp single
      refine ⟨by simpa using filled, by simpa using whole, fun member => ?_⟩
      exact Text.not_mem_replaceChar (by decide) name (Text.mem_of_mem_trim member)
    split
    · exact Check.gives_bind fun _ => Check.gives_pure cleaned
    · exact Check.gives_pure cleaned
  · -- A name of several segments gives way to the fallback.
    exact Check.gives_bind fun _ => Check.gives_pure segment

end Gives

/-- The defaults are as validated settings are. -/
theorem validated_defaults (workingDirectory : Text) : Validated workingDirectory (defaults workingDirectory) where
  inputPath := .inl rfl
  outputPath := rfl
  className := by
    -- Every field is a constant that its check lets pass, but for the input path, which is the fallback.
    change (Unicode.isIdentifier "StaticAssets".toList && !isKeyword "StaticAssets".toList) = true
    decide +kernel
  -- The other constants are small enough to be looked at.
  pathBase := by
    change Neat "/".toList
    decide +kernel
  rootDirectory := by
    change IsSegment "wwwroot".toList
    exact ⟨by decide, by decide, by decide⟩
  excludePatterns := by
    change ∀ pattern ∈ (defaults []).excludePatterns, Neat pattern
    decide +kernel
  flattenOverrides := ⟨by simp [defaults], by simp [defaults]⟩
  others := by simp [defaults]

/-- No white space surrounds an output path that was taken from a value. -/
theorem strip_outputText (value : Value) : (outputText value).strip = outputText value := by
  -- A text was stripped when it was taken, and other values give the empty one.
  cases value with
  | text => exact Text.strip_strip
  | null | bool | int | real | list | dict => rfl

/-- Settings that were checked are validated. -/
theorem gives_validated (mode : Mode) (workingDirectory : Text) (entries : Entries) :
    (checkEntries mode (defaults workingDirectory) entries).Gives (Validated workingDirectory) := by
  have default := validated_defaults workingDirectory
  rw [checkEntries]
  -- The fields are checked in turn, and the two names are judged behind them.
  refine (gives_checkText _ _).bind fun inputPath directory => ?_
  refine Check.gives_bind fun className => ?_
  refine (gives_checkText _ _).bind fun pathBase base => ?_
  refine Check.gives_bind fun rootDirectory => ?_
  refine Check.gives_bind fun flattenExtensions => Check.gives_bind fun checkHardcodedPaths => ?_
  refine (gives_checkTexts default.excludePatterns _).bind fun excludePatterns patterns => ?_
  refine (gives_checkFlags _).bind fun flattenOverrides flags => ?_
  refine (gives_checkClassName_name default.className _).bind fun className name => ?_
  refine (gives_checkRootDirectory default.rootDirectory _).bind fun rootDirectory segment => ?_
  -- What is known of the fields are the parts of being validated.
  refine Check.gives_pure ⟨directory, ?_, name, ?_, segment, patterns, flags, fun entry member => ?_⟩
  · exact strip_outputText _
  · rcases base with rfl | neat
    · exact default.pathBase
    · exact neat
  · simpa using (List.mem_filter.mp member).2

/-- What a validation gives is validated. -/
theorem validated_of_validate {mode : Mode} {workingDirectory : Text} {config : Value} {settings : Settings}
    {found : List Finding} (ended : validate mode workingDirectory config = .ok (settings, found)) :
    Validated workingDirectory settings := by
  unfold validate at ended
  split at ended
  next entries => exact gives_validated _ _ entries _ _ _ ended
  next =>
    -- What is no dictionary leaves the defaults.
    cases noted : (report mode (.notDictionary config.typeName)).run [] with
    | error finding => simp [noted, Bind.bind, Except.bind] at ended
    | ok result =>
      rw [noted] at ended
      cases ended
      exact validated_defaults workingDirectory

section Again

variable {mode : Mode} {field : Text}

/-- A text is checked without findings. -/
theorem checkText_text (fallback text : Text) :
    checkText mode field fallback (.text text) = pure (Text.stripOr fallback text) :=
  rfl

/-- Neat items pass as they are. -/
theorem checkItems_of_neat {texts : List Text} (neat : ∀ text ∈ texts, Neat text) :
    ∀ index, checkItems mode field index (texts.map .text) = pure texts := by
  -- An item that is neat is neither blank nor changed by being stripped.
  induction texts with
  | nil => exact fun index => rfl
  | cons text rest ih =>
    intro index
    obtain ⟨first, others⟩ := List.forall_mem_cons.mp neat
    rw [List.map_cons, checkItems, ih others, pure_bind, first.isEmpty_strip, first.2]
    rfl

/-- A flag for a new pattern comes behind the others. -/
theorem putFlag_of_new {pattern : Text} {flags : List (Text × Bool)} (new : pattern ∉ flags.map Prod.fst)
    (flag : Bool) : putFlag pattern flag flags = flags ++ [(pattern, flag)] := by
  -- The pattern is compared with every entry and is that of none.
  induction flags with
  | nil => rfl
  | cons entry rest ih =>
    simp only [List.map_cons, List.mem_cons, not_or] at new
    rw [putFlag, if_neg (Ne.symm new.1), ih new.2, List.cons_append]

/-- Flags of neat patterns pass as they are. -/
theorem checkOverrides_of_neat {flags : List (Text × Bool)} :
    ∀ found : List (Text × Bool), NeatFlags (found ++ flags) →
      checkOverrides mode field found (flags.map fun entry => (.text entry.1, .bool entry.2)) =
        pure (found ++ flags) := by
  -- The flags found so far and those to come have patterns of their own, so each one is new.
  induction flags with
  | nil =>
    intro found _
    rw [List.append_nil]
    rfl
  | cons entry rest ih =>
    intro found neat
    have fits : Neat entry.1 := neat.1 entry.1 (by simp)
    have new : entry.1 ∉ found.map Prod.fst := by
      have distinct := neat.2
      rw [List.map_append, List.map_cons] at distinct
      exact fun known => (List.disjoint_of_nodup_append distinct) known (by simp)
    -- The entry joins those found so far, and the rest goes on from there.
    have step := ih (found ++ [entry]) (by rwa [List.append_assoc, List.singleton_append])
    rw [List.append_assoc, List.singleton_append] at step
    rw [List.map_cons, checkOverrides, fits.isEmpty_strip, fits.2, checkFlag]
    simp only [Bool.false_eq_true, if_false, pure_bind, putFlag_of_new new, step]

/-- A class name that can be written as a name passes as it is. -/
theorem checkClassName_of_valid {name : Text} (valid : (Unicode.isIdentifier name && !isKeyword name) = true)
    (fallback : Text) : checkClassName mode fallback name = pure name := by
  rw [checkClassName, if_pos valid]

/-- One path segment passes as it is. -/
theorem checkRootDirectory_of_segment {name : Text} (segment : IsSegment name) (fallback : Text) :
    checkRootDirectory mode fallback name = pure name := by
  -- A segment has neither of the two separators, so that nothing is exchanged or trimmed.
  obtain ⟨filled, whole, forward⟩ := segment
  have same : Text.replaceChar '\\' '/' name = name := Text.replaceChar_eq_self forward
  have bare : Text.trim (· == '/') name = name := by
    refine Text.trim_eq_self_iff.mpr (Text.bare_of_forall fun c member => ?_)
    simpa using fun slash : c = '/' => whole (slash ▸ member)
  rw [checkRootDirectory]
  simp [same, bare, filled, whole]

/-- An identifier is neat. -/
theorem neat_of_isIdentifier {name : Text} (identifier : Unicode.isIdentifier name = true) : Neat name := by
  -- No white space continues a word, so there is none to strip.
  constructor
  · rintro rfl
    cases identifier
  · refine Text.trim_eq_self_iff.mpr (Text.bare_of_forall fun c member => ?_)
    exact Unicode.isBlank_of_continuesWord (Unicode.continuesWord_of_mem_identifier identifier c member)

/-- Among the entries of settings, those that are no settings are the other ones. -/
theorem filter_entries {settings : Settings} (others : ∀ entry ∈ settings.others, isFieldName entry.1 = false) :
    (settings.entries.filter fun entry => !isFieldName entry.1) = settings.others := by
  -- The entries of the fields come first, and none of them is left.
  have kept : (settings.others.filter fun entry => !isFieldName entry.1) = settings.others := by
    refine List.filter_eq_self.mpr fun entry member => ?_
    rw [others entry member]
    rfl
  rw [entries, List.filter_append, kept]
  rfl

/-- The default root directory is neat. -/
theorem neat_rootDirectory_defaults (workingDirectory : Text) : Neat (defaults workingDirectory).rootDirectory := by
  change Neat "wwwroot".toList
  decide +kernel

/-- The settings as one more validation leaves them, without white space around the names of two directories. -/
def trimmed (workingDirectory : Text) (settings : Settings) : Settings :=
  { settings with
    inputPath := Text.stripOr workingDirectory settings.inputPath
    rootDirectory := Text.stripOr (defaults workingDirectory).rootDirectory settings.rootDirectory }

/-- A segment is one still without white space around it. -/
theorem IsSegment.stripOr {fallback name : Text} (segment : IsSegment name) (default : IsSegment fallback) :
    IsSegment (Text.stripOr fallback name) := by
  -- What is stripped off a segment leaves signs of the segment, unless it leaves nothing.
  rw [Text.stripOr]
  split
  · exact default
  next filled =>
    refine ⟨by simpa using filled, fun member => ?_, fun member => ?_⟩
    · exact segment.2.1 (Text.mem_of_mem_trim member)
    · exact segment.2.2 (Text.mem_of_mem_trim member)

/-- Validated settings pass each check, up to white space around the names of the two directories. -/
theorem checkEntries_entries (mode : Mode) {workingDirectory : Text} {settings : Settings}
    (known : Validated workingDirectory settings) :
    checkEntries mode (defaults workingDirectory) settings.entries = pure (settings.trimmed workingDirectory) := by
  -- Each field is found under its name, and what is found there passes its check.
  have inputPath : (settings.entries.get? "input_path").getD (.text (defaults workingDirectory).inputPath) =
      .text settings.inputPath := rfl
  have outputPath : (settings.entries.get? "output_path").getD .null = .text settings.outputPath := rfl
  have className : (settings.entries.get? "class_name").getD .null = .text settings.className := rfl
  have pathBase : (settings.entries.get? "path_base").getD .null = .text settings.pathBase := rfl
  have rootDirectory : (settings.entries.get? "root_directory").getD .null = .text settings.rootDirectory := rfl
  have flattenExtensions :
      (settings.entries.get? "flatten_extensions").getD .null = .bool settings.flattenExtensions := rfl
  have flattenOverrides : (settings.entries.get? "flatten_overrides").getD .null =
      .dict (settings.flattenOverrides.map fun entry => (.text entry.1, .bool entry.2)) := rfl
  have excludePatterns :
      (settings.entries.get? "exclude_patterns").getD .null = .list (settings.excludePatterns.map .text) := rfl
  have checkHardcodedPaths :
      (settings.entries.get? "check_hardcoded_paths").getD .null = .bool settings.checkHardcodedPaths := rfl
  -- An identifier and a segment are neat, so that only the two directories may change.
  have named : Neat settings.className := neat_of_isIdentifier (Bool.and_eq_true_iff.mp known.className).1
  have segment := known.rootDirectory.stripOr (validated_defaults workingDirectory).rootDirectory
  simp only [checkEntries, inputPath, outputPath, className, pathBase, rootDirectory, flattenExtensions,
    flattenOverrides, excludePatterns, checkHardcodedPaths, checkText_text, checkFlag, checkTexts, checkFlags,
    checkItems_of_neat known.excludePatterns, checkOverrides_of_neat [] known.flattenOverrides, pure_bind,
    named.stripOr_eq, known.pathBase.stripOr_eq, checkClassName_of_valid known.className,
    checkRootDirectory_of_segment segment, filter_entries known.others, outputText, known.outputPath]
  rfl

/-- Settings that were trimmed are validated still, and are not changed by trimming. -/
theorem Validated.trimmed {workingDirectory : Text} {settings : Settings}
    (known : Validated workingDirectory settings) :
    Validated workingDirectory (settings.trimmed workingDirectory) :=
  { known with
    inputPath := Text.stripOr_cases workingDirectory settings.inputPath
    rootDirectory := known.rootDirectory.stripOr (validated_defaults workingDirectory).rootDirectory }

/-- To trim settings once more changes nothing. -/
theorem trimmed_trimmed {workingDirectory : Text} {settings : Settings}
    (known : Validated workingDirectory settings) :
    (settings.trimmed workingDirectory).trimmed workingDirectory = settings.trimmed workingDirectory := by
  -- The root directory is neat after the first time, and the other text was already.
  have inputPath := Text.stripOr_stripOr known.inputPath
  have neat := Text.neat_stripOr (neat_rootDirectory_defaults workingDirectory) settings.rootDirectory
  have rootDirectory := neat.stripOr_eq (defaults workingDirectory).rootDirectory
  rw [Settings.trimmed, Settings.trimmed]
  simp only [inputPath, rootDirectory]

/-- A validation of validated settings finds nothing, and leaves out white space around two names at most. -/
theorem validate_toValue (mode : Mode) {workingDirectory : Text} {settings : Settings}
    (known : Validated workingDirectory settings) :
    validate mode workingDirectory settings.toValue = .ok (settings.trimmed workingDirectory, []) := by
  -- The settings are written as a dictionary, whose entries are checked one by one.
  rw [toValue, validate]
  rw [checkEntries_entries mode known]
  rfl

/-- No white space surrounds the names of the two directories, but that the working directory may be blank. -/
def IsTrimmed (settings : Settings) : Prop :=
  (settings.inputPath.strip = [] ∨ settings.inputPath.strip = settings.inputPath) ∧
    settings.rootDirectory.strip = settings.rootDirectory

/-- Trimming keeps validated settings exactly if they are trimmed. -/
theorem trimmed_eq_self_iff {workingDirectory : Text} {settings : Settings}
    (known : Validated workingDirectory settings) :
    settings.trimmed workingDirectory = settings ↔ settings.IsTrimmed := by
  -- The root directory is no blank segment, so it has to be bare itself.
  have default := neat_rootDirectory_defaults workingDirectory
  have rootDirectory : Text.stripOr (defaults workingDirectory).rootDirectory settings.rootDirectory =
      settings.rootDirectory ↔ settings.rootDirectory.strip = settings.rootDirectory := by
    constructor
    · intro same
      exact same ▸ (Text.neat_stripOr default settings.rootDirectory).2
    · intro bare
      exact Text.Neat.stripOr_eq ⟨known.rootDirectory.1, bare⟩ _
  rw [IsTrimmed, ← Text.stripOr_eq_self_iff known.inputPath, ← rootDirectory, Settings.trimmed]
  constructor
  · intro same
    -- Trimming touches these two fields only.
    exact ⟨congrArg Settings.inputPath same, congrArg Settings.rootDirectory same⟩
  · rintro ⟨first, second⟩
    simp only [first, second]

/-- Repaired settings are validated. -/
theorem validated_repair (workingDirectory : Text) (config : Value) :
    Validated workingDirectory (repair workingDirectory config).1 :=
  validated_of_validate (validate_lenient workingDirectory config)

/-- Repairing validated settings leaves out white space around two names at most. -/
theorem repair_toValue {workingDirectory : Text} {settings : Settings} (known : Validated workingDirectory settings) :
    repair workingDirectory settings.toValue = (settings.trimmed workingDirectory, []) := by
  rw [repair, validate_toValue .lenient known]

/-- Where no white space surrounds the root directory, only the text of the project directory is trimmed. -/
theorem trimmed_of_rootDirectory {workingDirectory : Text} {settings : Settings} (neat : Neat settings.rootDirectory) :
    settings.trimmed workingDirectory =
      { settings with inputPath := Text.stripOr workingDirectory settings.inputPath } := by
  rw [trimmed, neat.stripOr_eq]

end Again

/--
A lenient validation of settings that were validated before finds nothing.

It gives them back exactly if they are trimmed; else it leaves out white space around the names of two directories.
A third validation changes nothing more.
-/
theorem validate_validate (workingDirectory : Text) (config : Value) :
    ∃ once found again,
      validate .lenient workingDirectory config = .ok (once, found) ∧
      validate .lenient workingDirectory once.toValue = .ok (again, []) ∧
      again = once.trimmed workingDirectory ∧ (again = once ↔ once.IsTrimmed) ∧
      validate .lenient workingDirectory again.toValue = .ok (again, []) := by
  -- The first validation gives settings, and what it gives passes the second one.
  have ended := validate_lenient workingDirectory config
  generalize repair workingDirectory config = result at ended
  obtain ⟨once, found⟩ := result
  have known := validated_of_validate ended
  refine ⟨once, found, once.trimmed workingDirectory, ended, validate_toValue .lenient known, rfl, ?_, ?_⟩
  · exact trimmed_eq_self_iff known
  · rw [validate_toValue .lenient known.trimmed, trimmed_trimmed known]

/-- Slashes that are taken from around a name leave the blanks between, which a second validation takes away. -/
theorem not_validate_validate :
    let config : Value := .dict [entry "root_directory" (.text "/ a /".toList)]
    ¬ ∀ once found again foundAgain,
      validate .lenient ['/'] config = .ok (once, found) →
      validate .lenient ['/'] once.toValue = .ok (again, foundAgain) → again = once ∧ foundAgain = [] := by
  -- The two root directories are evaluated and differ.
  intro config idempotent
  obtain ⟨same, -⟩ := idempotent _ _ _ _ (validate_lenient ['/'] config) (validate_lenient ['/'] _)
  have differs : (repair ['/'] (repair ['/'] config).1.toValue).1.rootDirectory ≠
      (repair ['/'] config).1.rootDirectory := by decide +kernel
  exact differs (congrArg Settings.rootDirectory same)

end Settings

end AssetCatalog
