import AssetCatalog.Settings.File

/-! What the checks of a validation give, whatever they are given. -/

namespace AssetCatalog.Settings

variable {α β : Type}

/-- Whatever a check gives, if it gives anything, has a property. -/
def Check.Gives (property : α → Prop) (check : Check α) : Prop :=
  ∀ found value after, check.run found = .ok (value, after) → property value

namespace Check

variable {property : α → Prop} {further : β → Prop}

/-- A value is given as it is. -/
theorem gives_pure {value : α} (holds : property value) : Gives property (pure value) := by
  -- Such a check has one way to end, which is with the value.
  intro found value after ended
  cases ended
  exact holds

/-- What one check gives is used by the next. -/
theorem Gives.bind {check : Check α} {next : α → Check β} (gives : Gives property check)
    (uses : ∀ value, property value → Gives further (next value)) : Gives further (check >>= next) := by
  -- If the first check gives nothing, neither do both.
  intro found value after ended
  rw [StateT.run_bind] at ended
  cases first : check.run found with
  | error finding => simp [first, Bind.bind, Except.bind] at ended
  | ok result =>
    rw [first] at ended
    exact uses result.1 (gives found result.1 result.2 first) _ _ _ ended

/-- What one check gives does not matter for the next. -/
theorem gives_bind {check : Check α} {next : α → Check β} (uses : ∀ value, Gives further (next value)) :
    Gives further (check >>= next) :=
  Gives.bind (fun _ _ _ _ => trivial) fun value (_ : True) => uses value

end Check

/-- A class name that was checked is an identifier, if the fallback is one. -/
theorem gives_checkClassName (mode : Mode) {fallback : Text} (identifier : Unicode.isIdentifier fallback = true)
    (name : Text) : (checkClassName mode fallback name).Gives fun checked => Unicode.isIdentifier checked = true := by
  -- The name is given only after it was found to be one.
  rw [checkClassName]
  split
  next valid => exact Check.gives_pure (Bool.and_eq_true_iff.mp valid).1
  · exact Check.gives_bind fun _ => Check.gives_pure identifier

/-- Settings that were checked have an identifier for their class name, if the defaults do. -/
theorem gives_checkEntries (mode : Mode) {defaults : Settings}
    (identifier : Unicode.isIdentifier defaults.className = true) (entries : Entries) :
    (checkEntries mode defaults entries).Gives fun settings => Unicode.isIdentifier settings.className = true := by
  rw [checkEntries]
  -- Eight fields are checked before the class name is judged, and the root directory behind it.
  iterate 8 refine Check.gives_bind fun _ => ?_
  refine (gives_checkClassName mode identifier _).bind fun className valid => ?_
  exact Check.gives_bind fun _ => Check.gives_pure valid

/-- The default class name is an identifier. -/
theorem isIdentifier_className_defaults (workingDirectory : Text) :
    Unicode.isIdentifier (defaults workingDirectory).className = true := by
  change Unicode.isIdentifier "StaticAssets".toList = true
  decide +kernel

/-- Valid settings have an identifier for their class name. -/
theorem isIdentifier_className_validate {mode : Mode} {workingDirectory : Text} {config : Value}
    {settings : Settings} {found : List Finding}
    (ended : validate mode workingDirectory config = .ok (settings, found)) :
    Unicode.isIdentifier settings.className = true := by
  have default := isIdentifier_className_defaults workingDirectory
  unfold validate at ended
  split at ended
  next entries => exact gives_checkEntries mode default entries _ _ _ ended
  next =>
    -- What is no dictionary leaves the defaults.
    cases noted : (report mode (.notDictionary config.typeName)).run [] with
    | error finding => simp [noted, Bind.bind, Except.bind] at ended
    | ok result =>
      rw [noted] at ended
      cases ended
      exact default

/-- Repaired settings have an identifier for their class name. -/
theorem isIdentifier_className_repair (workingDirectory : Text) (config : Value) :
    Unicode.isIdentifier (repair workingDirectory config).1.className = true := by
  -- The settings are validated ones, or the defaults where validation fails.
  rw [repair]
  split
  next ended => exact isIdentifier_className_validate ended
  · exact isIdentifier_className_defaults workingDirectory

end AssetCatalog.Settings
