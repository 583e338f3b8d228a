import AssetCatalog.Log.Logger
import Mathlib.Data.List.Induction

/-! The course of a logger through any calls: its queue and its listener come and go together. -/

namespace AssetCatalog.Log

section Calls

/-- What a program asks of its logger. -/
inductive Call where
  /-- To open the sinks of some options. -/
  | configure (options : Options) (force : Bool)
  /-- To hand on a record, at a time. -/
  | log (time : Text) (record : Record)
  /-- To give up the sinks. -/
  | shutDown

namespace Effect

/-- A logger that was asked for nothing yet, with the handlers that others attached. -/
def start (foreign : List Handler) (level : Level) (store : Store) : Effect where
  logger := { level, handlers := foreign }
  store := store

/-- What was brought about so far, and by what comes next. -/
def andThen (effect next : Effect) : Effect :=
  { next with shown := effect.shown ++ next.shown }

/-- The logger is the one that comes next. -/
@[simp] theorem logger_andThen (effect next : Effect) : (effect.andThen next).logger = next.logger := rfl

/-- What is brought about by one more call. -/
def call (workingDirectory : Text) (effect : Effect) : Call → Effect
  | .configure options force =>
    effect.andThen (effect.logger.configure workingDirectory options force effect.store)
  | .log time record => effect.andThen (effect.logger.log time record effect.store)
  | .shutDown => { effect with logger := effect.logger.shutDown }

/-- What is brought about by calls, one after the other. -/
def calls (workingDirectory : Text) (effect : Effect) (history : List Call) : Effect :=
  history.foldl (call workingDirectory) effect

/-- The last call comes behind the others. -/
@[simp] theorem calls_append_singleton (workingDirectory : Text) (effect : Effect) (history : List Call)
    (last : Call) : effect.calls workingDirectory (history ++ [last]) =
      (effect.calls workingDirectory history).call workingDirectory last := by
  -- A fold over a list with one more entry ends with that entry.
  rw [calls, List.foldl_append]
  rfl

end Effect

end Calls

section Sinks

variable {options : Options} {workingDirectory : Text} {store : Store} {sink : Sink}

/-- The sinks of some options that can be opened. -/
def Options.sinks (options : Options) (workingDirectory : Text) (store : Store) : List Sink :=
  (options.openSinks workingDirectory store).1

/-- The sinks of some options are the console, where it is asked for, and behind it at most one file. -/
theorem Options.sinks_cases (options : Options) (workingDirectory : Text) (store : Store) :
    ∃ files, options.sinks workingDirectory store =
        (if options.console then [⟨Level.ofName options.level, .console⟩] else []) ++ files ∧
      (files = [] ∨ ∃ file, files = [⟨Level.ofName options.level, .file file⟩]) := by
  rw [Options.sinks, Options.openSinks]
  split
  · exact ⟨[], (List.append_nil _).symm, .inl rfl⟩
  next file _ =>
    -- A file that cannot be opened is no sink.
    split
    · exact ⟨_, rfl, .inr ⟨file, rfl⟩⟩
    · exact ⟨[], (List.append_nil _).symm, .inl rfl⟩

/-- All sinks of some options have the level of the options. -/
theorem Options.level_of_mem_sinks (member : sink ∈ options.sinks workingDirectory store) :
    sink.level = Level.ofName options.level := by
  -- The sinks are the console, if it is asked for, and a file, if one could be opened.
  obtain ⟨files, whole, rfl | ⟨file, rfl⟩⟩ := options.sinks_cases workingDirectory store
  all_goals
    rw [whole] at member
    cases console : options.console <;> simp [console] at member
  · rw [member]
  · rw [member]
  · rcases member with rfl | rfl <;> rfl

/-- No two sinks of some options are the same. -/
theorem Options.nodup_sinks (options : Options) (workingDirectory : Text) (store : Store) :
    (options.sinks workingDirectory store).Nodup := by
  -- There are at most two sinks, and they are of different kinds.
  obtain ⟨files, whole, rfl | ⟨file, rfl⟩⟩ := options.sinks_cases workingDirectory store
  all_goals
    rw [whole]
    cases options.console <;> simp

/-- The console can always be opened. -/
theorem Options.sinks_ne_nil (console : options.console = true) :
    options.sinks workingDirectory store ≠ [] := by
  -- The console stands in front of whatever file there is.
  obtain ⟨files, whole, _⟩ := options.sinks_cases workingDirectory store
  simp [whole, console]

end Sinks

section Configuration

variable {workingDirectory : Text} {options : Options} {force : Bool} {logger : Logger} {store : Store}

/-- Whether a configuration is passed over. -/
def Logger.passesOver (logger : Logger) (force : Bool) : Bool :=
  logger.isConfigured && !force

/-- A configuration is passed over if the logger counts as configured and no force is used. -/
theorem Logger.passesOver_iff : logger.passesOver force = true ↔ logger.isConfigured = true ∧ force = false := by
  simp [Logger.passesOver]

/-- A configuration that is heard uses force if the logger counts as configured. -/
theorem Logger.forced_of_heard (heard : logger.passesOver force = false) (settled : logger.isConfigured = true) :
    force = true := by
  simpa [Logger.passesOver, settled] using heard

/-- A configuration that is passed over changes nothing. -/
theorem configure_of_passesOver (passed : logger.passesOver force = true) :
    logger.configure workingDirectory options force store = { logger, store } := by
  rw [Logger.passesOver] at passed
  rw [Logger.configure, if_pos passed]

/--
What a configuration can do to a logger.

It is passed over, or it opens no sink and takes the queue away, or it attaches a queue that leads to the opened sinks.
Without a sink the logger counts as configured if it did before.
-/
theorem logger_configure_cases (workingDirectory : Text) (options : Options) (force : Bool) (logger : Logger)
    (store : Store) :
    let next := (logger.configure workingDirectory options force store).logger
    logger.passesOver force = true ∧ next = logger ∨
      logger.passesOver force = false ∧ options.sinks workingDirectory store = [] ∧
        next = { logger.detached with level := Level.ofName options.level } ∨
      logger.passesOver force = false ∧ options.sinks workingDirectory store ≠ [] ∧
        next =
          { level := Level.ofName options.level
            handlers := logger.detached.handlers ++ [Handler.queue]
            listener := options.sinks workingDirectory store
            isConfigured := true } := by
  -- What is heard comes down to whether a sink was opened.
  cases heard : logger.passesOver force with
  | true => simp [configure_of_passesOver heard]
  | false =>
    rw [Logger.passesOver] at heard
    by_cases none : options.sinks workingDirectory store = []
    · refine .inr (.inl ⟨rfl, none, ?_⟩)
      rw [Options.sinks] at none
      simp [Logger.configure, heard, none]
    · refine .inr (.inr ⟨rfl, none, ?_⟩)
      rw [Options.sinks] at none ⊢
      simp [Logger.configure, heard, none]

end Configuration

section Soundness

variable {foreign : List Handler} {logger : Logger} {effect : Effect}

/-- What is always so with a logger to which others attached some handlers. -/
structure Logger.Sound (foreign : List Handler) (logger : Logger) : Prop where
  /-- Behind the handlers of others there is the queue, while it is listened to. -/
  handlers : logger.handlers = foreign ++ if logger.listener.isSome then [Handler.queue] else []
  /-- The sinks take what the logger hands on. -/
  levels : ∀ sinks ∈ logger.listener, ∀ sink ∈ sinks, sink.level = logger.level
  /-- A logger that is listened to counts as configured. -/
  isConfigured : logger.listener.isSome = true → logger.isConfigured = true

/-- Without its queue a logger has the handlers of others. -/
theorem Logger.Sound.handlers_detached (sound : logger.Sound foreign) (alien : Handler.queue ∉ foreign) :
    logger.detached.handlers = foreign := by
  -- The queue is the only handler that is taken away, and none of the others is it.
  have kept : foreign.filter (· != Handler.queue) = foreign :=
    List.filter_eq_self.mpr fun handler member => by
      simpa using fun same : handler = Handler.queue => alien (same ▸ member)
  rw [Logger.detached, sound.handlers, List.filter_append, kept]
  split <;> simp

/-- The queue is attached exactly while it is listened to. -/
theorem Logger.Sound.queue_mem_iff (sound : logger.Sound foreign) (alien : Handler.queue ∉ foreign) :
    Handler.queue ∈ logger.handlers ↔ logger.listener.isSome = true := by
  -- Besides the handlers that were there before, only a listener brings the queue.
  rw [sound.handlers]
  cases logger.listener <;> simp [alien]

/-- The queue is attached once at most. -/
theorem Logger.Sound.count_queue (sound : logger.Sound foreign) (alien : Handler.queue ∉ foreign) :
    logger.handlers.count Handler.queue = if logger.listener.isSome then 1 else 0 := by
  -- None of the handlers that were there before is the queue.
  have none : foreign.count Handler.queue = 0 := List.count_eq_zero.mpr alien
  rw [sound.handlers, List.count_append, none]
  split <;> rfl

/-- A logger that is detached from its queue is sound. -/
theorem Logger.Sound.detach (sound : logger.Sound foreign) (alien : Handler.queue ∉ foreign) (level : Level)
    (isConfigured : Bool) :
    Logger.Sound foreign { logger.detached with level, isConfigured } where
  handlers := (sound.handlers_detached alien).trans (List.append_nil foreign).symm
  levels sinks listening := by cases listening
  isConfigured listening := by cases listening

/-- A configuration keeps a logger sound. -/
theorem Logger.Sound.configure (sound : logger.Sound foreign) (alien : Handler.queue ∉ foreign)
    (workingDirectory : Text) (options : Options) (force : Bool) (store : Store) :
    (logger.configure workingDirectory options force store).logger.Sound foreign := by
  rcases logger_configure_cases workingDirectory options force logger store with
    ⟨_, same⟩ | ⟨_, _, same⟩ | ⟨_, _, same⟩
  · rwa [same]
  · rw [same]
    exact sound.detach alien _ _
  · -- The opened sinks all have the level that the logger takes on.
    rw [same]
    refine ⟨?_, fun sinks listening sink member => ?_, fun _ => rfl⟩
    · rw [sound.handlers_detached alien]
      rfl
    · cases listening
      exact Options.level_of_mem_sinks member

/-- Logging does not change the logger. -/
theorem logger_log (time : Text) (record : Record) (logger : Logger) (store : Store) :
    (logger.log time record store).logger = logger := by
  -- Each sink that is written to only changes the store and what is shown.
  rw [Logger.log]
  exact List.foldlRecOn (motive := fun effect : Effect => effect.logger = logger) _ _ rfl
    fun effect same _ _ => same

/-- A call keeps a logger sound. -/
theorem Logger.Sound.call (sound : effect.logger.Sound foreign) (alien : Handler.queue ∉ foreign)
    (workingDirectory : Text) (call : Call) : (effect.call workingDirectory call).logger.Sound foreign := by
  -- To log changes no logger, and the other two kinds of calls have their own lemmas.
  cases call with
  | configure options force => exact sound.configure alien workingDirectory options force effect.store
  | log time record =>
    have same := logger_log time record effect.logger effect.store
    exact same.symm ▸ sound
  | shutDown => exact sound.detach alien _ _

/-- Through all calls a logger stays sound. -/
theorem Logger.Sound.calls (alien : Handler.queue ∉ foreign) (workingDirectory : Text) (level : Level) (store : Store)
    (history : List Call) :
    ((Effect.start foreign level store).calls workingDirectory history).logger.Sound foreign := by
  -- At the start the logger has the foreign handlers alone, and every call keeps it sound.
  induction history using List.reverseRecOn with
  | nil =>
    refine ⟨(List.append_nil foreign).symm, fun _ listening => ?_, fun listening => ?_⟩
    · cases listening
    · cases listening
  | append_singleton history last ih =>
    rw [Effect.calls_append_singleton]
    exact ih.call alien workingDirectory last

end Soundness

end AssetCatalog.Log
