import AssetCatalog.Proofs.CommandLine.Outcome
import AssetCatalog.Proofs.Path.Output
import AssetCatalog.Proofs.Project.Place
import AssetCatalog.Proofs.Settings.Entries

/-! The program and a library call on one project: they make the same run, unless its output path keeps them apart. -/

namespace AssetCatalog

/-- What a caller learns of a run: the file of the module, whether the run succeeded, and the text. -/
def Project.Run.gist (run : Project.Run) : Except Crash (Text × Bool × Text) :=
  run.result.map fun report => (report.outputPath, report.ok, report.source)

/-- Both runs end with the same result and the same store; what they log does not count. -/
def Project.Run.EndsAs (first second : Project.Run) : Prop :=
  first.result = second.result ∧ first.store = second.store

namespace CommandLine

variable {environment : Environment} {time project directory : Text} {store : Store} {value : Value}
  {entries : Entries}

section Library

/-- The directory that a project directory stands for. -/
def projectDirectory (environment : Environment) (project : Text) : Text :=
  Path.resolveDirectory environment environment.workingDirectory project

/-- The configuration of the settings file in a directory. -/
def projectEntries (environment : Environment) (store : Store) (directory : Text) : Entries :=
  (Settings.load store environment.workingDirectory (some (Path.join directory Settings.fileName))).1

/-- The configuration of a project, with its directory as it was given. -/
def projectConfig (environment : Environment) (store : Store) (project : Text) : Value :=
  .dict ((projectEntries environment store (projectDirectory environment project)).put "input_path" (.text project))

/-- The run that a library call makes of a project. -/
def libraryRun (environment : Environment) (store : Store) (project : Text) : Project.Run :=
  Project.run environment store (projectConfig environment store project) false

end Library

section OutputPath

/-- Whether a value stands for an output path and is no text. -/
def isMisfit : Value → Bool
  | .text _ => false
  | other => other.isTruthy

/-- The output path as the program hands it on: a relative one starts at the project directory. -/
def anchored (directory : Text) : Value → Text
  | .text path => (if path.isEmpty || Path.isAbsolute path then path else Path.join directory path).strip
  | _ => []

/-- Whether the program and a library call mean the same file by a value, if either of them can resolve it. -/
def SamePlace (environment : Environment) (directory className : Text) (value : Value) : Prop :=
  Path.asksForNull (anchored directory value).strip = Path.asksForNull (Settings.outputText value).strip ∧
    Path.resolveOutput environment directory (moduleFileName className) (anchored directory value) =
      Path.resolveOutput environment directory (moduleFileName className) (Settings.outputText value)

instance (className : Text) : Decidable (SamePlace environment directory className value) :=
  inferInstanceAs (Decidable (_ ∧ _))

/-- No output path, an absolute one, or a relative one that stays so when it is filled in. -/
def IsSteady (environment : Environment) : Value → Prop
  | .text path => path = [] ∨ Path.isAbsolute path = true ∨ Path.IsPlain environment path
  | other => other.isTruthy = false

instance : Decidable (IsSteady environment value) :=
  match value with
  | .text path => inferInstanceAs (Decidable (path = [] ∨ _))
  | .null | .bool _ | .int _ | .real _ | .list _ | .dict _ => inferInstanceAs (Decidable (_ = _))

/-- White space around it does not matter for the file that an output path stands for. -/
theorem resolveOutput_strip (name path : Text) :
    Path.resolveOutput environment directory name path.strip = Path.resolveOutput environment directory name path := by
  rw [Path.resolveOutput, Path.resolveOutput, Text.strip_strip]

/-- By a steady value the program and a library call mean the same file. -/
theorem samePlace_of_isSteady {className : Text} (rooted : Path.isAbsolute directory = true) (free : '$' ∉ directory)
    (steady : IsSteady environment value) :
    isMisfit value = false ∧ SamePlace environment directory className value := by
  cases value with
  | text path =>
    refine ⟨rfl, ?_⟩
    rw [SamePlace, anchored, Settings.outputText, resolveOutput_strip, resolveOutput_strip, Text.strip_strip,
      Text.strip_strip]
    -- A blank or an absolute path is not moved at all; a relative one is joined to the directory.
    split
    · exact ⟨rfl, rfl⟩
    next relative =>
      rw [Bool.or_eq_true, not_or] at relative
      -- A steady value that is moved is a plain path.
      rcases steady with rfl | whole | plain
      · exact absurd rfl relative.1
      · exact absurd whole relative.2
      · exact ⟨Path.asksForNull_join rooted plain, Path.resolveOutput_join rooted free plain⟩
  | null | bool | int | real | list | dict => exact ⟨steady, rfl, rfl⟩

/-- A value that is no path ends the program before it runs. -/
theorem anchorOutput_of_misfit (misfit : isMisfit (Settings.outputEntry entries) = true) :
    anchorOutput directory entries = .error (.noPath (Settings.outputEntry entries).typeName) := by
  -- A text is no misfit, and any other value ends the program if it counts as true.
  rw [anchorOutput, ← Settings.outputEntry.eq_1]
  generalize Settings.outputEntry entries = value at misfit ⊢
  cases value with
  | text => cases misfit
  | null | bool | int | real | list | dict => simp_all [isMisfit]

/-- The output path of repaired settings is not touched by the project directory. -/
theorem outputPath_repair_put (here : Text) :
    (Settings.repair environment.workingDirectory (.dict (entries.put "input_path" (.text here)))).1.outputPath =
      Settings.outputText (Settings.outputEntry entries) := by
  -- The project directory is put under another name than the output path.
  rw [Settings.outputPath_repair, Settings.outputEntry, Entries.get?_put_of_ne (by decide)]
  rfl

/-- Any other value leaves the configuration as it is, but for the place that an output path starts from. -/
theorem repair_anchorOutput (environment : Environment) (directory here : Text)
    (fits : isMisfit (Settings.outputEntry entries) = false) :
    ∃ config, anchorOutput directory entries = .ok config ∧
      (Settings.repair environment.workingDirectory (.dict (config.put "input_path" (.text here)))).1 =
        { (Settings.repair environment.workingDirectory (.dict (entries.put "input_path" (.text here)))).1 with
          outputPath := anchored directory (Settings.outputEntry entries) } := by
  -- Where the place is that of the value itself, the configuration is as it was.
  have kept : anchored directory (Settings.outputEntry entries) =
      Settings.outputText (Settings.outputEntry entries) →
      (Settings.repair environment.workingDirectory (.dict (entries.put "input_path" (.text here)))).1 =
        { (Settings.repair environment.workingDirectory (.dict (entries.put "input_path" (.text here)))).1 with
          outputPath := anchored directory (Settings.outputEntry entries) } := by
    intro same
    rw [same, ← outputPath_repair_put here]
  rw [anchorOutput, ← Settings.outputEntry.eq_1]
  generalize Settings.outputEntry entries = value at fits kept ⊢
  -- Only a relative path is moved, and only the output path is affected by that.
  cases value with
  | text path =>
    dsimp only
    split
    next stays =>
      refine ⟨entries, rfl, kept ?_⟩
      rw [anchored, if_pos stays]
      rfl
    next moves =>
      refine ⟨_, rfl, ?_⟩
      rw [Settings.repair_put_outputPath, anchored, if_neg moves]
      rfl
  | null | bool | int | real | list | dict =>
    exact ⟨entries, if_neg (Bool.eq_false_iff.mp fits), kept rfl⟩

end OutputPath

section Runs

/-- Of what is no file, nothing can be decoded. -/
theorem exists_decodeFile_eq_error {store : Store} {workingDirectory path : Text}
    (missing : ¬ store.isFile (Store.rooted workingDirectory path) = true) :
    ∃ reason, Settings.decodeFile store workingDirectory path = .error reason := by
  -- What is no file cannot be read, and decoding comes after reading.
  have unreadable : ∃ failure, store.readText workingDirectory path = .error failure := by
    cases known : store.readText workingDirectory path with
    | error failure => exact ⟨failure, rfl⟩
    | ok text => exact absurd (Store.isFile_of_read (Store.readText_eq_ok_iff.mp known)) missing
  obtain ⟨failure, unreadable⟩ := unreadable
  rw [Settings.decodeFile, Store.readLines, unreadable]
  exact ⟨_, rfl⟩

/-- A settings file that is not there changes nothing, as one that cannot be read. -/
theorem load_findFile? (store : Store) (workingDirectory directory : Text) :
    (Settings.load store workingDirectory (Settings.findFile? store workingDirectory directory)).1 =
      (Settings.load store workingDirectory (some (Path.join directory Settings.fileName))).1 := by
  -- A file that is there is the one at its path, which is given in either case.
  rw [Settings.findFile?]
  split
  · rfl
  next missing =>
    obtain ⟨reason, unread⟩ := exists_decodeFile_eq_error missing
    -- A file that is not given and one that cannot be decoded both leave the defaults.
    rw [Settings.load, Settings.load.eq_def]
    dsimp only
    split
    · rfl
    · rfl
    next path _ same =>
      obtain rfl := Option.some.inj same
      rw [unread]
      split <;> rfl

/-- The program configures a run by the settings file alone, when it is given nothing but a project directory. -/
theorem configuration_input (directory : Text) :
    (configuration environment store (givenInput project) directory).1 =
      (anchorOutput directory (projectEntries environment store directory)).map fun config =>
        config.put "input_path" (.text directory) := by
  have loaded := load_findFile? store environment.workingDirectory directory
  have merged (config : Entries) : merge config (overrides (givenInput project)) =
      -- What is given on top of the settings file is the project directory alone.
      config.put "input_path" (.text project) := rfl
  rw [projectEntries, ← loaded]
  change (anchorOutput _ _).map _ = _
  simp only [merged, Entries.put_put]
  rfl

/-- The settings that a library call makes of a project. -/
def projectSettings (environment : Environment) (store : Store) (project : Text) : Settings :=
  (Settings.repair environment.workingDirectory (projectConfig environment store project)).1

/-- The value of the output path in the settings file of a project. -/
def projectOutput (environment : Environment) (store : Store) (project : Text) : Value :=
  Settings.outputEntry (projectEntries environment store (projectDirectory environment project))

/-- The run that the program makes of a project. -/
def commandRun (environment : Environment) (store : Store) (project : Text) : Project.Run :=
  runFor environment store (givenInput project) (projectDirectory environment project)

/-- The output path of a library call is the text of its value. -/
theorem outputPath_projectSettings : (projectSettings environment store project).outputPath =
    Settings.outputText (projectOutput environment store project) :=
  outputPath_repair_put project

/-- A library call keeps the text that was given for the project directory, without white space around it. -/
theorem projectSettings_inputPath (store : Store) : (projectSettings environment store project).inputPath =
    Text.stripOr environment.workingDirectory project :=
  congrArg Settings.inputPath (Settings.repair_put_inputPath _ _ project project)

/-- The project directory of a library call is the one that was given. -/
theorem inputPath_projectSettings (store : Store) (filled : project.strip.isEmpty = false) :
    Project.inputPath environment (projectSettings environment store project) =
      projectDirectory environment project := by
  -- The settings have the place of the directory, which is not blank and so stays as it is.
  rw [Project.inputPath, projectSettings_inputPath, Path.resolveDirectory_stripOr filled]
  rfl

/-- Any configuration makes the run of its repaired settings. -/
theorem endsAs_runWith (environment : Environment) (store : Store) (config : Value) (dryRun : Bool) :
    (Project.run environment store config dryRun).EndsAs
      (Project.runWith environment store (Settings.repair environment.workingDirectory config).1 dryRun) := by
  -- The two differ in the records of the log only.
  obtain ⟨records, same⟩ := Project.run_eq_runWith environment store config dryRun
  rw [same]
  exact ⟨rfl, rfl⟩

/-- A value that is no path ends the program without a run. -/
theorem commandRun_of_misfit (misfit : isMisfit (projectOutput environment store project) = true) :
    commandRun environment store project =
      { store, records := [], result := .error (.noPath (projectOutput environment store project).typeName) } := by
  -- The value is given to the platform as a path, and fails there before any run.
  rw [commandRun, runFor, configuration_input, anchorOutput_of_misfit misfit]
  rfl

/-- The program runs with the settings of a library call, but for the texts of the paths and for what is trimmed. -/
theorem commandRun_of_fits (fits : isMisfit (projectOutput environment store project) = false) :
    (commandRun environment store project).EndsAs
      (Project.runWith environment store (((projectSettings environment store project).placed
          (Text.stripOr environment.workingDirectory (projectDirectory environment project))
          (anchored (projectDirectory environment project) (projectOutput environment store project))).trimmed
        environment.workingDirectory) false) := by
  -- The anchored path is one more entry, so the settings are placed before they are trimmed.
  let directory := projectDirectory environment project
  obtain ⟨config, starts, repaired⟩ := repair_anchorOutput environment directory directory fits
  have placed : (Settings.repair environment.workingDirectory (.dict (config.put "input_path" (.text directory)))).1 =
      (projectSettings environment store project).placed (Text.stripOr environment.workingDirectory directory)
        (anchored directory (projectOutput environment store project)) := by
    rw [repaired, Settings.repair_put_inputPath _ _ project]
    simp only [Settings.placed, projectSettings, projectConfig, projectOutput, directory]
  have known := Settings.validated_repair environment.workingDirectory
    (.dict (config.put "input_path" (.text directory)))
  rw [placed] at known
  rw [commandRun, runFor, configuration_input, starts]
  dsimp only [Except.map]
  rw [placed]
  -- The run validates the settings once more.
  have ends := endsAs_runWith environment store ((projectSettings environment store project).placed
    (Text.stripOr environment.workingDirectory directory)
    (anchored directory (projectOutput environment store project))).toValue false
  rwa [Settings.repair_toValue known] at ends

end Runs

section Agreement

variable {report : Report}

/-- A project directory that stands for the same place when it is resolved once more. -/
structure IsSettled (environment : Environment) (project : Text) : Prop where
  /-- The text does not start with a user who cannot be looked up. -/
  known : Path.asksForNull project.strip = false
  /-- Paths are seen from an absolute directory. -/
  rooted : Path.isAbsolute environment.workingDirectory = true
  /-- The text is not blank. -/
  filled : project.strip.isEmpty = false
  /-- In the path of the directory there is nothing left to fill in. -/
  again : projectDirectory environment (projectDirectory environment project) = projectDirectory environment project

/-- No white space surrounds the root directory of a project. -/
def HasBareRoot (environment : Environment) (store : Store) (project : Text) : Prop :=
  (projectSettings environment store project).rootDirectory.strip =
    (projectSettings environment store project).rootDirectory

/-- The program and a library call mean the same file by the output path of a project. -/
def MeansOneFile (environment : Environment) (store : Store) (project : Text) : Prop :=
  isMisfit (projectOutput environment store project) = false ∧
    SamePlace environment (projectDirectory environment project)
      (projectSettings environment store project).className (projectOutput environment store project)

/-- Other texts for the paths are trimmed with the settings, whose root directory is bare. -/
theorem trimmed_placed {settings : Settings} {workingDirectory inputPath outputPath : Text}
    (neat : Text.Neat settings.rootDirectory) :
    (settings.placed inputPath outputPath).trimmed workingDirectory =
      settings.placed (Text.stripOr workingDirectory inputPath) outputPath := by
  -- The root directory is the only text that a trimming could change besides the project directory.
  have bare : Text.Neat (settings.placed inputPath outputPath).rootDirectory := neat
  rw [Settings.trimmed_of_rootDirectory bare]
  rfl

/-- An anchored output path leads to the same file exactly if it means the same place. -/
theorem outputFile_placed_eq_iff {settings : Settings} {inputPath : Text}
    (output : settings.outputPath = Settings.outputText value) :
    Path.asksForNull (anchored directory value).strip = Path.asksForNull settings.outputPath.strip ∧
        Project.outputFile environment (settings.placed inputPath (anchored directory value)) directory =
          Project.outputFile environment settings directory ↔
      SamePlace environment directory settings.className value := by
  -- Both sides compare the same two outcomes, with the settings' own output path written out.
  rw [Project.outputFile, Project.outputFile, output]
  exact Iff.rfl

/-- The settings of a library call, as the program hands them on. -/
def commandSettings (environment : Environment) (store : Store) (project : Text) : Settings :=
  (projectSettings environment store project).placed
    (Text.stripOr environment.workingDirectory
      (Text.stripOr environment.workingDirectory (projectDirectory environment project)))
    (anchored (projectDirectory environment project) (projectOutput environment store project))

/-- The program runs over the project directory of a library call. -/
theorem inputPath_commandSettings (store : Store) (settled : IsSettled environment project) :
    Project.inputPath environment (commandSettings environment store project) =
      projectDirectory environment project := by
  have whole : Path.isAbsolute (projectDirectory environment project) = true :=
    Path.isAbsolute_absolute settled.rooted
  have filled := Path.isEmpty_strip_of_isAbsolute whole
  have stripped : (Text.stripOr environment.workingDirectory (projectDirectory environment project)).strip.isEmpty =
      false := by
    rw [Text.stripOr, filled]
    simpa using filled
  -- Neither of the two times that the text is stripped matters.
  rw [Project.inputPath, commandSettings, Settings.inputPath_placed, Path.resolveDirectory_stripOr stripped,
    Path.resolveDirectory_stripOr filled]
  exact settled.again

/-- Both the program and a library call resolve the project directory without a user who cannot be looked up. -/
theorem asksForNull_inputPath (store : Store) (settled : IsSettled environment project) :
    Path.asksForNull (Text.stripOr environment.workingDirectory
        (commandSettings environment store project).inputPath) = false ∧
      Path.asksForNull (Text.stripOr environment.workingDirectory
        (projectSettings environment store project).inputPath) = false := by
  have whole : Path.isAbsolute (projectDirectory environment project) = true :=
    Path.isAbsolute_absolute settled.rooted
  constructor
  · -- The program hands on the directory itself, which is absolute.
    rw [commandSettings, Settings.inputPath_placed]
    exact Path.asksForNull_of_isAbsolute
      (Path.isAbsolute_stripOr (Path.isAbsolute_stripOr (Path.isAbsolute_stripOr whole)))
  · have bare : Text.stripOr environment.workingDirectory project = project.strip :=
      if_neg (Bool.eq_false_iff.mp settled.filled)
    rw [projectSettings_inputPath, bare, (Text.neat_strip settled.filled).stripOr_eq]
    exact settled.known

/-- With a bare root directory, the program runs with its settings as they are. -/
theorem commandRun_endsAs (bare : HasBareRoot environment store project)
    (fits : isMisfit (projectOutput environment store project) = false) :
    (commandRun environment store project).EndsAs
      (Project.runWith environment store (commandSettings environment store project) false) := by
  -- Trimming the settings leaves them as they are, as the root directory is bare and the others are neat.
  have known := Settings.validated_repair environment.workingDirectory (projectConfig environment store project)
  have neat : Text.Neat (projectSettings environment store project).rootDirectory :=
    ⟨known.rootDirectory.1, bare⟩
  have ends := commandRun_of_fits fits
  rw [trimmed_placed neat] at ends
  rw [commandSettings]
  exact ends

/-- A library call ends as the run with the settings of the project. -/
theorem libraryRun_endsAs : (libraryRun environment store project).EndsAs
    (Project.runWith environment store (projectSettings environment store project) false) :=
  endsAs_runWith environment store (projectConfig environment store project) false

/-- Where both mean one file, the program makes the run of a library call. -/
theorem commandRun_endsAs_libraryRun (settled : IsSettled environment project)
    (bare : HasBareRoot environment store project) (one : MeansOneFile environment store project) :
    (commandRun environment store project).EndsAs (libraryRun environment store project) := by
  obtain ⟨fits, place⟩ := one
  obtain ⟨result, after⟩ := commandRun_endsAs bare fits
  have library : Project.inputPath environment (projectSettings environment store project) = _ :=
    inputPath_projectSettings store settled.filled
  have command := inputPath_commandSettings store settled
  obtain ⟨there, here⟩ := asksForNull_inputPath store settled
  -- The two runs read one directory, and write to files with one place.
  obtain ⟨output, file⟩ := (outputFile_placed_eq_iff outputPath_projectSettings).mpr place
  -- With the directory and the file of the other run, the one with other texts for them is the same.
  have same : Project.runWith environment store (commandSettings environment store project) false =
      Project.runWith environment store (projectSettings environment store project) false := by
    rw [commandSettings] at command there ⊢
    rw [Settings.inputPath_placed] at there
    refine Project.runWith_placed (there.trans here.symm) output (command.trans library.symm) ?_
    rw [library]
    exact file
  rw [same] at result after
  exact ⟨result.trans libraryRun_endsAs.1.symm, after.trans libraryRun_endsAs.2.symm⟩

/-- Where a library call reports a file, and the program the same one, both mean it. -/
theorem meansOneFile_of_gist_eq (settled : IsSettled environment project)
    (bare : HasBareRoot environment store project)
    (ended : (libraryRun environment store project).result = .ok report) (named : report.outputPath ≠ [])
    (alike : (commandRun environment store project).gist = (libraryRun environment store project).gist) :
    MeansOneFile environment store project := by
  -- The program reports as well, and its report names that file.
  obtain ⟨other, reported, gist⟩ : ∃ other, (commandRun environment store project).result = .ok other ∧
      other.outputPath = report.outputPath := by
    rw [Project.Run.gist, Project.Run.gist, ended] at alike
    cases result : (commandRun environment store project).result with
    | error =>
      rw [result] at alike
      cases alike
    | ok other =>
      rw [result] at alike
      exact ⟨other, rfl, congrArg Prod.fst (Except.ok.inj alike)⟩
  -- A value that is no path would have ended the program.
  have fits : isMisfit (projectOutput environment store project) = false := by
    rw [← Bool.not_eq_true]
    intro misfit
    rw [commandRun_of_misfit misfit] at reported
    cases reported
  -- Both reports name the file that their settings place.
  have command := (commandRun_endsAs bare fits).1.symm.trans reported
  have library := libraryRun_endsAs.1.symm.trans ended
  obtain ⟨first, resolved⟩ := (Project.outputPath_of_runWith command).resolve_left (gist ▸ named)
  obtain ⟨second, known⟩ := (Project.outputPath_of_runWith library).resolve_left named
  rw [inputPath_commandSettings store settled] at first
  rw [inputPath_projectSettings store settled.filled] at second
  refine ⟨fits, (outputFile_placed_eq_iff outputPath_projectSettings).mp ⟨?_, first.symm.trans (gist.trans second)⟩⟩
  exact resolved.trans known.symm

/-- A value that is no path means nothing to a library call, which falls back to the default place. -/
theorem outputText_of_misfit (misfit : isMisfit value = true) : Settings.outputText value = [] := by
  -- Only a text is a path, so every other constructor means the empty text.
  cases value with
  | text => cases misfit
  | null | bool | int | real | list | dict => rfl

end Agreement

/-- A project of one asset, whose settings file gives an output path in this spelling. -/
def sampleProject (spelling : String) : Store :=
  let text := "\x7b\"output_path\": " ++ spelling ++ ", \"root_directory\": \"w\", \"exclude_patterns\": []\x7d"
  ⟨.directory [] [.directory ['p'] [.file Settings.fileName (Utf8.encode text.toList),
    .directory ['w'] [.file ['a'] []]]]⟩

end CommandLine

end AssetCatalog
