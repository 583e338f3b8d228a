import AssetCatalog.Proofs.Module.FileName
import AssetCatalog.Proofs.Settings.Again

/-! Which class names a validation keeps, and which of these can be imported from the module for the class. -/

set_option maxRecDepth 20000

namespace AssetCatalog.Settings

/-- Whether a text can be written as a name: it is an identifier and no reserved word. -/
def IsName (text : Text) : Prop :=
  Unicode.isIdentifier text = true ∧ isKeyword text = false

/-- Whether a class can be imported from its module. -/
structure IsImportable (className : Text) : Prop where
  /-- The stem of the module's file can be written as a name. -/
  stem : ∃ stem, moduleFileName className = stem ++ ".py" ∧ IsName stem
  /-- The normal form, by which the class is bound and looked up, can be written as a name. -/
  reachable : IsName (Unicode.nfkc className)

section ClassName

variable {mode : Mode} {name : Text} {entries : Entries}

/-- A class name that can be written as a name is kept. -/
theorem gives_className {defaults : Settings} (given : entries.get? "class_name" = some (.text name))
    (named : IsName name) :
    (checkEntries mode defaults entries).Gives fun settings => settings.className = name := by
  have text : (checkText mode "class_name" defaults.className ((entries.get? "class_name").getD .null)).Gives
      fun className => className = name := by
    rw [given]
    exact Check.gives_pure ((neat_of_isIdentifier named.1).stripOr_eq _)
  rw [checkEntries]
  -- The text is checked behind the project directory, and judged behind the types of six other fields.
  refine Check.gives_bind fun _ => text.bind fun className same => ?_
  iterate 6 refine Check.gives_bind fun _ => ?_
  rw [same, checkClassName_of_valid (by rw [named.1, named.2]; rfl), pure_bind]
  exact Check.gives_bind fun _ => Check.gives_pure rfl

/-- A lenient validation keeps the class names that can be written as names, and no others. -/
theorem className_repair_eq_iff (workingDirectory : Text) (given : entries.get? "class_name" = some (.text name)) :
    (repair workingDirectory (.dict entries)).1.className = name ↔ IsName name := by
  constructor
  · -- Repaired settings have a name there, and the text that was given is that name.
    intro kept
    obtain ⟨identifier, free⟩ := Bool.and_eq_true_iff.mp (validated_repair workingDirectory (.dict entries)).className
    rw [kept] at identifier free
    exact ⟨identifier, by simpa using free⟩
  · exact fun named => gives_className given named _ _ _ (validate_lenient workingDirectory (.dict entries))

/-- The stem of a module's file is the class name with an underscore between its words, in lower case. -/
theorem moduleFileName_eq_iff {stem : Text} : moduleFileName name = stem ++ ".py" ↔ stem = FileName.snakeCase name := by
  rw [moduleFileName, List.append_left_inj, eq_comm]

/-- A name gives a module whose file is named by an identifier, which is a reserved word for the reserved forms only. -/
theorem IsName.isName_snakeCase_iff (named : IsName name) :
    IsName (FileName.snakeCase name) ↔ name ∉ FileName.reservedForms := by
  -- A name is no reserved word itself.
  have other : name ∉ FileName.smallKeywords := by
    intro small
    have reserved := List.contains_iff_mem.mpr (List.mem_filter.mp small).1
    rw [← isKeyword, named.2] at reserved
    cases reserved
  rw [IsName, FileName.isIdentifier_snakeCase named.1, ← Bool.not_eq_true, FileName.isKeyword_snakeCase_iff]
  simp [other]

/-- The normal form of a name is an identifier, which is a reserved word if the name decomposes into one. -/
theorem IsName.isName_nfkc_iff (named : IsName name) :
    IsName (Unicode.nfkc name) ↔ isKeyword (name.flatMap Unicode.decompose) = false := by
  -- Normal forms of identifiers are identifiers, so only reserved words are left to look at.
  rw [IsName, Unicode.isIdentifier_nfkc named.1, Unicode.isKeyword_nfkc]
  exact and_iff_right rfl

/-- A name can be imported exactly if its module's file and its normal form are names. -/
theorem isImportable_iff_isName :
    IsImportable name ↔ IsName (FileName.snakeCase name) ∧ IsName (Unicode.nfkc name) := by
  -- The stem of a module's file is determined by the file.
  constructor
  · rintro ⟨⟨stem, file, named⟩, reachable⟩
    exact ⟨moduleFileName_eq_iff.mp file ▸ named, reachable⟩
  · exact fun ⟨named, reachable⟩ => ⟨⟨_, rfl, named⟩, reachable⟩

end ClassName

/--
A lenient validation keeps a class name exactly if it can be written as a name.

The stem of the module's file and the normal form of a name that is kept are identifiers.
The class can be imported unless the name is one of the reserved forms or decomposes into a reserved word.
-/
theorem isImportable_iff (workingDirectory : Text) {entries : Entries} {name : Text}
    (given : entries.get? "class_name" = some (.text name)) :
    ∃ settings found, validate .lenient workingDirectory (.dict entries) = .ok (settings, found) ∧
      (settings.className = name ↔ IsName name) ∧
      (settings.className = name →
        (∃ stem, moduleFileName name = stem ++ ".py" ∧ Unicode.isIdentifier stem = true) ∧
        Unicode.isIdentifier (Unicode.nfkc name) = true ∧
        (IsImportable name ↔
          name ∉ FileName.reservedForms ∧ isKeyword (name.flatMap Unicode.decompose) = false)) := by
  -- A name that is kept is an identifier, and the rest is known of identifiers.
  have keeps := className_repair_eq_iff workingDirectory given
  refine ⟨_, _, validate_lenient workingDirectory (.dict entries), keeps, fun kept => ?_⟩
  have named := keeps.mp kept
  refine ⟨⟨_, rfl, FileName.isIdentifier_snakeCase named.1⟩, Unicode.isIdentifier_nfkc named.1, ?_⟩
  rw [isImportable_iff_isName, named.isName_snakeCase_iff, named.isName_nfkc_iff]

/-- A class name of two words is kept, and the class can be imported. -/
theorem isImportable_iff_words :
    let entries : Entries := [entry "class_name" (.text "SiteAssets".toList)]
    entries.get? "class_name" = some (.text "SiteAssets".toList) ∧ IsImportable "SiteAssets" := by
  -- The name is kept, is no reserved form, and decomposes into no reserved word.
  intro entries
  have given : entries.get? "class_name" = some (.text "SiteAssets".toList) := rfl
  obtain ⟨settings, found, -, keeps, imports⟩ := isImportable_iff ['/'] given
  have named : IsName "SiteAssets" := by
    constructor <;> decide
  refine ⟨given, (imports (keeps.mpr named)).2.2.mpr ⟨?_, ?_⟩⟩
  · decide
  · decide

/-- One class name is kept though its module is named by a reserved word, and another one though it is read as one. -/
theorem not_isImportable :
    let config (name : Text) : Value := .dict [entry "class_name" (.text name)]
    ¬ (∀ name settings found, validate .lenient ['/'] (config name) = .ok (settings, found) →
      settings.className = name → ∀ stem, moduleFileName name = stem ++ ".py" → IsName stem) ∧
    ¬ (∀ name settings found, validate .lenient ['/'] (config name) = .ok (settings, found) →
      settings.className = name → IsName (Unicode.nfkc name)) := by
  intro config
  have kept (name : Text) (named : IsName name) : (repair ['/'] (config name)).1.className = name :=
    (className_repair_eq_iff ['/'] rfl).mpr named
  constructor
  · -- The small form of the name is a reserved word.
    intro importable
    have capital : IsName "Class" := by
      constructor <;> decide
    have stem := importable _ _ _ (validate_lenient ['/'] (config "Class")) (kept _ capital) _ rfl
    exact absurd stem.2 (by decide)
  · -- The normal form of the name is a reserved word.
    intro importable
    have wide : IsName [Char.ofNat 0xFF41, 's'] := by
      constructor <;> decide
    have form := importable _ _ _ (validate_lenient ['/'] (config _)) (kept _ wide)
    exact absurd form.2 (by decide)

end AssetCatalog.Settings
