import AssetCatalog.Proofs.Log.Course

/-! When a configuration brings a logger to work: always by force, and else unless the logger was left without sinks. -/

namespace AssetCatalog.Log

section Since

variable {α : Type}

/-- Something happened in a history, and all that came later let it stand. -/
def Since (stands : α → Prop) (happens : List α → α → Prop) (history : List α) : Prop :=
  ∃ before event after, history = before ++ event :: after ∧ happens before event ∧ ∀ later ∈ after, stands later

variable {stands : α → Prop} {happens : List α → α → Prop}

/-- Nothing has happened yet. -/
theorem not_since_nil : ¬ Since stands happens [] := by
  -- An empty history holds no event.
  rintro ⟨before, event, after, whole, _⟩
  simp at whole

/-- It happened last, or it happened before and the last event lets it stand. -/
theorem since_append_singleton {history : List α} {last : α} :
    Since stands happens (history ++ [last]) ↔
      happens history last ∨ stands last ∧ Since stands happens history := by
  constructor
  · rintro ⟨before, event, after, whole, happened, stood⟩
    -- Either nothing came behind the event, or the last event did.
    rcases List.eq_nil_or_concat after with rfl | ⟨earlier, final, rfl⟩
    · obtain ⟨rfl, same⟩ := List.append_inj' whole rfl
      obtain rfl : last = event := List.singleton_inj.mp same
      exact .inl happened
    · rw [List.concat_eq_append] at whole stood
      rw [← List.cons_append, ← List.append_assoc] at whole
      obtain ⟨rfl, same⟩ := List.append_inj' whole rfl
      obtain rfl : last = final := List.singleton_inj.mp same
      refine .inr ⟨stood last (by simp), before, event, earlier, rfl, happened, fun later member => ?_⟩
      exact stood later (List.mem_append_left _ member)
  · rintro (happened | ⟨stood, before, event, after, rfl, happened, others⟩)
    · -- An event that was last is one, and an earlier one is still there.
      exact ⟨history, last, [], rfl, happened, by simp⟩
    · refine ⟨before, event, after ++ [last], by simp, happened, fun later member => ?_⟩
      rcases List.mem_append.mp member with known | here
      · exact others later known
      · exact List.mem_singleton.mp here ▸ stood

end Since

/-- A queue is attached, and listened to. -/
def Logger.IsWorking (logger : Logger) : Prop :=
  logger.handlers.count Handler.queue = 1 ∧ logger.listener.isSome = true

/-- A call that asks for nothing new of a logger that counts as configured. -/
def Call.IsIdle : Call → Prop
  | .configure _ force => force = false
  | .log _ _ => True
  | .shutDown => False

section Histories

variable (workingDirectory : Text) (begin : Effect)

/-- Some options opened sinks, and the logger was not shut down since. -/
def WasAttached : List Call → Prop :=
  Since (· ≠ .shutDown) fun before call => ∃ options force, call = .configure options force ∧
    options.sinks workingDirectory (begin.calls workingDirectory before).store ≠ []

/-- A logger that counted as configured was configured by force and without a sink, and nothing was done since. -/
def IsStranded : List Call → Prop :=
  Since Call.IsIdle fun before call => ∃ options, call = .configure options true ∧
    options.sinks workingDirectory (begin.calls workingDirectory before).store = [] ∧
    WasAttached workingDirectory begin before

end Histories

section Standing

variable {begin : Effect}

/-- A logger counts as configured behind a call that opens sinks, or if it did before and is not shut down. -/
theorem isConfigured_call_iff (workingDirectory : Text) (effect : Effect) (call : Call) :
    (effect.call workingDirectory call).logger.isConfigured = true ↔
      (∃ options force, call = .configure options force ∧ options.sinks workingDirectory effect.store ≠ []) ∨
        call ≠ .shutDown ∧ effect.logger.isConfigured = true := by
  -- Only the two calls that configure and shut down touch the flag.
  cases call with
  | log time record => simp [Effect.call, logger_log]
  | shutDown => simp [Effect.call, Logger.shutDown]
  | configure options force =>
    rw [Effect.call, Effect.logger_andThen]
    rcases logger_configure_cases workingDirectory options force effect.logger effect.store with
      ⟨passed, same⟩ | ⟨_, none, same⟩ | ⟨_, some, same⟩
    · simp [same, (Logger.passesOver_iff.mp passed).1]
    · simp [same, none, Logger.detached]
    · simp [same, some]

/-- A logger counts as configured exactly if some options opened sinks since it was last shut down. -/
theorem isConfigured_calls_iff (workingDirectory : Text) (fresh : begin.logger.isConfigured = false)
    (history : List Call) :
    (begin.calls workingDirectory history).logger.isConfigured = true ↔
      WasAttached workingDirectory begin history := by
  -- Induction from the last call: what one more call changes is known.
  induction history using List.reverseRecOn with
  | nil =>
    have never : ¬ WasAttached workingDirectory begin [] := not_since_nil
    simp [Effect.calls, fresh, never]
  | append_singleton history last ih =>
    rw [Effect.calls_append_singleton, isConfigured_call_iff, WasAttached, since_append_singleton, ← WasAttached, ih]

/-- A call strands a logger by force and without a sink, or leaves one stranded that it asks for nothing new. -/
theorem isStranded_call_iff (workingDirectory : Text) (effect : Effect) (call : Call) :
    ((effect.call workingDirectory call).logger.isConfigured = true ∧
        (effect.call workingDirectory call).logger.listener = none) ↔
      (∃ options, call = .configure options true ∧ options.sinks workingDirectory effect.store = [] ∧
          effect.logger.isConfigured = true) ∨
        call.IsIdle ∧ effect.logger.isConfigured = true ∧ effect.logger.listener = none := by
  cases call with
  | log time record => simp [Effect.call, logger_log, Call.IsIdle]
  | shutDown => simp [Effect.call, Logger.shutDown, Call.IsIdle]
  | configure options force =>
    rw [Effect.call, Effect.logger_andThen]
    rcases logger_configure_cases workingDirectory options force effect.logger effect.store with
      ⟨passed, same⟩ | ⟨heard, none, same⟩ | ⟨heard, some, same⟩
    · obtain ⟨settled, rfl⟩ := Logger.passesOver_iff.mp passed
      rw [same]
      simp [settled, Call.IsIdle]
    · -- What opens no sink strands a logger that counts as configured, and is heard there only by force.
      rw [same]
      constructor
      · rintro ⟨settled, _⟩
        obtain rfl := Logger.forced_of_heard heard settled
        exact .inl ⟨options, rfl, none, settled⟩
      · rintro (⟨_, _, _, settled⟩ | ⟨_, settled, _⟩)
        · exact ⟨settled, rfl⟩
        · exact ⟨settled, rfl⟩
    · -- What opens sinks has a queue, and is not idle where it is heard by a configured logger.
      rw [same]
      constructor
      · rintro ⟨_, silent⟩
        cases silent
      · rintro (⟨_, asked, none, _⟩ | ⟨unforced, settled, _⟩)
        · cases asked
          exact absurd none some
        · have unforced : force = false := unforced
          rw [Logger.forced_of_heard heard settled] at unforced
          cases unforced

/-- A logger counts as configured and has no queue exactly if it was stranded. -/
theorem isStranded_iff (workingDirectory : Text) (fresh : begin.logger.isConfigured = false)
    (history : List Call) :
    ((begin.calls workingDirectory history).logger.isConfigured = true ∧
        (begin.calls workingDirectory history).logger.listener = none) ↔
      IsStranded workingDirectory begin history := by
  -- Induction from the last call, where the flag of the calls before is known as well.
  induction history using List.reverseRecOn with
  | nil =>
    have never : ¬ IsStranded workingDirectory begin [] := not_since_nil
    simp [Effect.calls, fresh, never]
  | append_singleton history last ih =>
    have known := isConfigured_calls_iff workingDirectory fresh history
    rw [Effect.calls_append_singleton, isStranded_call_iff, IsStranded, since_append_singleton, ← IsStranded, ih]
    simp only [known]

end Standing

section Recovery

variable {workingDirectory : Text} {foreign : List Handler} {logger : Logger}

/-- A sound logger works exactly if its queue is listened to. -/
theorem Logger.Sound.isWorking_iff (sound : logger.Sound foreign) (alien : Handler.queue ∉ foreign) :
    logger.IsWorking ↔ logger.listener.isSome = true := by
  -- The queue is attached once with a listener and not at all without one.
  rw [Logger.IsWorking, sound.count_queue alien]
  cases logger.listener <;> simp

/-- With the console a logger works if the configuration is heard, and else if it worked before. -/
theorem isSome_listener_configure_iff {options : Options} (console : options.console = true) (force : Bool)
    (logger : Logger) (store : Store) :
    (logger.configure workingDirectory options force store).logger.listener.isSome = true ↔
      (force = true ∨ ¬ (logger.isConfigured = true ∧ logger.listener = none)) := by
  rcases logger_configure_cases workingDirectory options force logger store with
    ⟨passed, same⟩ | ⟨_, none, _⟩ | ⟨heard, _, same⟩
  · obtain ⟨settled, rfl⟩ := Logger.passesOver_iff.mp passed
    rw [same]
    simp [settled, Option.isSome_iff_ne_none]
  · exact absurd none (Options.sinks_ne_nil console)
  · -- What is heard finds no logger that counts as configured, unless it uses force.
    rw [same]
    refine iff_of_true rfl ?_
    by_cases settled : logger.isConfigured = true
    · exact .inl (Logger.forced_of_heard heard settled)
    · exact .inr fun stranded => settled stranded.1

end Recovery

/--
A configuration with the console brings a logger to work by force, and else exactly if the logger was not stranded.

A logger is stranded if it counted as configured when it was configured by force without a sink, and nothing was done
since. It is just then that a logger counts as configured and has no queue.
-/
theorem isWorking_configure_iff (workingDirectory : Text) {foreign : List Handler}
    (alien : Handler.queue ∉ foreign) (level : Level) (store : Store) (history : List Call) (options : Options)
    (console : options.console = true) (force : Bool) :
    let begin := Effect.start foreign level store
    let now := begin.calls workingDirectory history
    ((now.call workingDirectory (.configure options force)).logger.IsWorking ↔
        force = true ∨ ¬ IsStranded workingDirectory begin history) ∧
      (now.logger.isConfigured = true ∧ Handler.queue ∉ now.logger.handlers ↔
        IsStranded workingDirectory begin history) := by
  intro begin now
  -- What a whole history keeps is that there is a queue exactly where there is a listener.
  have sound : now.logger.Sound foreign := Logger.Sound.calls alien workingDirectory level store history
  have after := sound.configure alien workingDirectory options force now.store
  have fresh : begin.logger.isConfigured = false := rfl
  rw [← isStranded_iff workingDirectory fresh history]
  constructor
  · exact (after.isWorking_iff alien).trans (isSome_listener_configure_iff console force now.logger now.store)
  · rw [sound.queue_mem_iff alien, Option.not_isSome_iff_eq_none]

/-- A logger that was stranded is brought to work by force only. -/
theorem isWorking_configure_iff_stranded :
    let foreign := [Handler.foreign "host".toList]
    let begin := Effect.start foreign Level.warning {}
    let history := [Call.configure {} false, .configure { console := false } true]
    let now := begin.calls ['/'] history
    Handler.queue ∉ foreign ∧ ({} : Options).console = true ∧ IsStranded ['/'] begin history ∧
      ¬ (now.call ['/'] (.configure {} false)).logger.IsWorking ∧
      (now.call ['/'] (.configure {} true)).logger.IsWorking := by
  -- The history strands the logger, so that only the second half of the law is left.
  intro foreign begin history now
  have alien : Handler.queue ∉ foreign := by decide
  obtain ⟨unforced, flagged⟩ := isWorking_configure_iff ['/'] alien Level.warning {} history {} rfl false
  obtain ⟨forced, _⟩ := isWorking_configure_iff ['/'] alien Level.warning {} history {} rfl true
  have stranded : IsStranded ['/'] begin history := flagged.mp (by decide +kernel)
  refine ⟨alien, rfl, stranded, fun working => ?_, forced.mpr (.inl rfl)⟩
  exact (unforced.mp working).elim Bool.false_ne_true fun free => free stranded

/-- A configuration with the console can leave a logger without a queue. -/
theorem not_isWorking_configure :
    ¬ ∀ (history : List Call) (options : Options) (force : Bool), options.console = true →
      (((Effect.start [.foreign "host".toList] Level.warning {}).calls ['/'] history).call ['/']
        (.configure options force)).logger.IsWorking := by
  -- A history that strands the logger is evaluated, and then configured without force.
  intro always
  have working := always [.configure {} false, .configure { console := false } true] {} false rfl
  have silent : (((Effect.start [.foreign "host".toList] Level.warning {}).calls ['/']
      [.configure {} false, .configure { console := false } true]).call ['/']
        (.configure {} false)).logger.listener.isSome = false := by
    decide +kernel
  rw [working.2] at silent
  cases silent

end AssetCatalog.Log
