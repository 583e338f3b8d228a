import AssetCatalog.Proofs.Project.Again

/-! A run depends on the texts of its two paths only through the places that they stand for. -/

namespace AssetCatalog

/-- The settings with other texts for the project directory and the output path. -/
def Settings.placed (settings : Settings) (inputPath outputPath : Text) : Settings :=
  { settings with inputPath, outputPath }

/-- The text for the project directory takes the place of the other one. -/
@[simp] theorem Settings.inputPath_placed (settings : Settings) (inputPath outputPath : Text) :
    (settings.placed inputPath outputPath).inputPath = inputPath :=
  rfl

/-- The text for the output path takes the place of the other one. -/
@[simp] theorem Settings.outputPath_placed (settings : Settings) (inputPath outputPath : Text) :
    (settings.placed inputPath outputPath).outputPath = outputPath :=
  rfl

namespace Project

variable {environment : Environment} {store : Store} {settings : Settings} {survey : Survey} {dryRun : Bool}
  {directory inputPath outputPath : Text} {report : Report}

/-- The file that a run writes its module to, when it searches a directory. -/
def outputFile (environment : Environment) (settings : Settings) (directory : Text) : Text :=
  Path.resolveOutput environment directory (moduleFileName settings.className) settings.outputPath

/-- A survey is the same for an output path that stands for the same file. -/
theorem survey_placed {exclusions : List Exclusion}
    (place : outputFile environment (settings.placed inputPath outputPath) directory =
      outputFile environment settings directory) :
    Project.survey environment store (settings.placed inputPath outputPath) exclusions directory =
      Project.survey environment store settings exclusions directory := by
  -- Of the paths, a survey reads only the file that they stand for.
  rw [outputFile, outputFile] at place
  rw [Project.survey, Project.survey, place]
  rfl

/-- How a run ends after its survey does not depend on the texts of the paths. -/
theorem close_placed :
    close environment store (settings.placed inputPath outputPath) dryRun survey =
      close environment store settings dryRun survey :=
  rfl

/-- Texts that stand for the same places make the same run. -/
theorem runWith_placed
    (input : Path.asksForNull (Text.stripOr environment.workingDirectory inputPath) =
      Path.asksForNull (Text.stripOr environment.workingDirectory settings.inputPath))
    (output : Path.asksForNull outputPath.strip = Path.asksForNull settings.outputPath.strip)
    (same : Project.inputPath environment (settings.placed inputPath outputPath) =
      Project.inputPath environment settings)
    (place : outputFile environment (settings.placed inputPath outputPath) (Project.inputPath environment settings) =
      outputFile environment settings (Project.inputPath environment settings)) :
    runWith environment store (settings.placed inputPath outputPath) dryRun =
      runWith environment store settings dryRun := by
  -- The settings count only by their directory, their file and what the paths do not touch.
  have prepared : prepare environment (settings.placed inputPath outputPath) = prepare environment settings := by
    rw [prepare, prepare, Settings.outputPath_placed, output]
    rfl
  rw [Project.inputPath, Project.inputPath] at same
  rw [Project.inputPath] at place
  rw [runWith.eq_def, runWith.eq_def]
  dsimp only
  rw [same, prepared, Settings.inputPath_placed, input]
  simp only [survey_placed place, close_placed]
  rfl

/-- A report on a survey names its file, or none. -/
theorem outputPath_of_conclude (ended : (conclude environment store settings dryRun survey).result = .ok report) :
    report.outputPath = [] ∨ report.outputPath = survey.outputPath := by
  obtain ⟨dry, message, rfl⟩ | ⟨written, rfl, -⟩ := report_cases ended
  · exact .inr rfl
  · -- A success without a text names no file.
    rw [Survey.success]
    dsimp only [Report.success]
    split
    · exact .inl rfl
    · exact .inr rfl

/-- Settings that can be used have an output path that can be resolved. -/
theorem asksForNull_of_prepare {exclusions : List Exclusion}
    (prepared : prepare environment settings = .ok exclusions) :
    Path.asksForNull settings.outputPath.strip = false := by
  -- The output path is the first to be looked at.
  rw [prepare] at prepared
  split at prepared
  · cases prepared
  next known => exact Bool.eq_false_iff.mpr known

/-- A report names the file that belongs to the settings, which can be resolved, or none. -/
theorem outputPath_of_runWith (ended : (runWith environment store settings dryRun).result = .ok report) :
    report.outputPath = [] ∨
      report.outputPath = outputFile environment settings (Project.inputPath environment settings) ∧
        Path.asksForNull settings.outputPath.strip = false := by
  -- A run over a directory that is not there names no file.
  obtain ⟨crash, same⟩ | same | ⟨exclusions, surveys⟩ := runWith_cases environment store settings dryRun
  · rw [same] at ended
    cases ended
  · rw [same] at ended
    cases ended
    exact .inl rfl
  · rw [runWith_eq_close surveys] at ended
    have complete := isComplete_of_close ended
    rw [complete.close] at ended
    exact (outputPath_of_conclude ended).imp_right fun named => ⟨named, asksForNull_of_prepare surveys.prepared⟩

/-- No run fails for want of a path. -/
theorem result_runWith_ne_noPath (typeName : Text) :
    (runWith environment store settings dryRun).result ≠ .error (.noPath typeName) := by
  -- Only the program that hands on the output path knows of such a failure.
  intro ended
  rw [runWith] at ended
  dsimp only at ended
  split at ended
  · cases ended
  · split at ended
    · split at ended
      next crash prepared =>
        cases ended
        -- What keeps the settings from being used is another failure.
        obtain unknown | ⟨fault, limited⟩ := crash_of_prepare prepared
        · cases unknown
        · cases limited
      next exclusions _ =>
        rw [close] at ended
        split at ended
        · cases ended
        · obtain ⟨_, same⟩ | ⟨_, _, same⟩ | ⟨_, same, -⟩ := result_conclude_cases environment store settings dryRun _
          all_goals cases ended.symm.trans same
    · cases ended

end Project

end AssetCatalog
