import AssetCatalog.Proofs.Log.Queue

/-! What a queue brings about: each sink gets each record once and in order, as if it were written at once. -/

namespace AssetCatalog.Log

section Records

/-- The calls among moves. -/
def callsOf (moves : List Move) : List Call :=
  moves.filterMap fun
    | .call call => some call
    | .listen => none

/-- The last call comes behind the others. -/
@[simp] theorem callsOf_append_call (moves : List Move) (last : Call) :
    callsOf (moves ++ [.call last]) = callsOf moves ++ [last] :=
  List.filterMap_append

/-- A turn of the listener is no call. -/
@[simp] theorem callsOf_append_listen (moves : List Move) : callsOf (moves ++ [.listen]) = callsOf moves :=
  List.filterMap_append.trans (List.append_nil _)

/-- The messages that a call puts in the queue: one that reaches the level of the logger, if the queue is attached. -/
def Logger.messages (logger : Logger) : Call → List Message
  | .log time record => if logger.hears record then [⟨time, record⟩] else []
  | .configure .. | .shutDown => []

/-- The messages that calls put in the queue, one after the other. -/
def Effect.allMessages (workingDirectory : Text) (effect : Effect) : List Call → List Message
  | [] => []
  | call :: later =>
    effect.logger.messages call ++ (effect.call workingDirectory call).allMessages workingDirectory later

end Records

section Handing

namespace Effect

/-- What shows before a message is handed on shows before it afterwards. -/
theorem andThen_hand (effect next : Effect) (message : Message) (sinks : List Sink) :
    effect.andThen (next.hand message sinks) = (effect.andThen next).hand message sinks := by
  -- Each sink in turn adds to what is shown behind what was shown before.
  induction sinks generalizing next with
  | nil => rfl
  | cons sink sinks ih =>
    refine (ih _).trans (congrArg (hand · message sinks) ?_)
    simp [andThen]

/-- To do nothing changes nothing. -/
theorem andThen_self (effect : Effect) :
    effect.andThen { logger := effect.logger, store := effect.store } = effect := by
  simp [andThen]

/-- A call that logs a message hands it to the sinks that it goes to. -/
theorem call_log (workingDirectory : Text) (effect : Effect) (time : Text) (record : Record) :
    effect.call workingDirectory (.log time record) =
      effect.hand ⟨time, record⟩ (effect.logger.sinksFor record) := by
  -- Logging is handing over, from a state in which nothing has been shown yet.
  have logged : effect.logger.log time record effect.store =
      hand { logger := effect.logger, store := effect.store } ⟨time, record⟩ (effect.logger.sinksFor record) := rfl
  rw [call, logged, andThen_hand, andThen_self]

end Effect

end Handing

section Synchrony

variable {workingDirectory : Text} {foreign : List Handler} {machine : Machine} {session : Session}

namespace Machine

/-- A message that is put in the queue is handed on once the listener is stopped, behind what waited. -/
theorem effect_stop_put (attached : machine.current = some session) (message : Message) :
    (stop { machine with current := some (session.put message) }).effect =
      machine.stop.effect.hand message (session.takers message) := by
  -- Stopping hands over what waits, of which the message is the last.
  rw [effect_stop attached, effect_stop rfl]
  exact List.foldl_append ..

/-- Where a record is put in the queue, there is one. -/
theorem Sound.exists_current (sound : machine.Sound foreign) (alien : Handler.queue ∉ foreign) {record : Record}
    (heard : machine.effect.logger.hears record = true) : ∃ session, machine.current = some session := by
  -- The logger hears only with the queue attached, and then there is a listener to it.
  have listening := (sound.logger.queue_mem_iff alien).mp (Logger.hears_iff.mp heard).2
  rw [sound.listener, Option.isSome_map] at listening
  exact Option.isSome_iff_exists.mp listening

/-- A call that is made while messages wait brings about, in the end, what it does once the listener was stopped. -/
theorem Sound.effect_stop_call (sound : machine.Sound foreign) (alien : Handler.queue ∉ foreign) (call : Call) :
    (machine.call workingDirectory call).stop.effect = machine.stop.effect.call workingDirectory call := by
  -- Stopping the listener has it write what waits first, as each of the calls does that needs a new queue.
  cases call with
  | shutDown => exact effect_stop_of_backlog_eq_zero rfl
  | configure options force =>
    rw [Machine.call]
    split
    next passed =>
      rw [← logger_stop] at passed
      rw [Effect.call, configure_of_passesOver passed, Effect.andThen_self]
    next heard =>
      -- In a queue that was just attached nothing waits.
      refine effect_stop_of_backlog_eq_zero ?_
      dsimp only [backlog]
      split <;> rfl
  | log time record =>
    rw [Machine.call, Effect.call_log, Logger.sinksFor, ← Logger.hears, logger_stop]
    split
    next heard =>
      -- The sinks of the queue are those that the logger would write to at once.
      obtain ⟨session, attached⟩ := sound.exists_current alien heard
      rw [attached, sound.listener, attached]
      exact effect_stop_put attached ⟨time, record⟩
    next => rfl

/-- What all moves bring about, in the end, is what the calls among them do where each record is written at once. -/
theorem effect_stop_run (alien : Handler.queue ∉ foreign) (level : Level) (store : Store) (moves : List Move) :
    ((start foreign level store).run workingDirectory moves).stop.effect =
      (Effect.start foreign level store).calls workingDirectory (callsOf moves) := by
  induction moves using List.reverseRecOn with
  | nil => rfl
  | append_singleton moves last ih =>
    rw [run_append_singleton]
    cases last with
    | listen => rw [move, stop_listen, ih, callsOf_append_listen]
    | call call =>
      have sound := Sound.run alien workingDirectory level store moves
      -- The call is made on what the others brought about in the end.
      rw [move, sound.effect_stop_call alien, ih, callsOf_append_call, Effect.calls_append_singleton]

/-- At any point the logger is the same as where each record is written at once. -/
theorem logger_run (alien : Handler.queue ∉ foreign) (level : Level) (store : Store) (moves : List Move) :
    ((start foreign level store).run workingDirectory moves).effect.logger =
      ((Effect.start foreign level store).calls workingDirectory (callsOf moves)).logger := by
  rw [← effect_stop_run alien, logger_stop]

end Machine

end Synchrony

section Completeness

variable {workingDirectory : Text} {foreign : List Handler} {machine : Machine}

/-- The messages of the last call come behind those of the others. -/
theorem Effect.allMessages_append_singleton (effect : Effect) (history : List Call) (last : Call) :
    effect.allMessages workingDirectory (history ++ [last]) =
      effect.allMessages workingDirectory history ++ (effect.calls workingDirectory history).logger.messages last := by
  -- Induction on the history, as messages are counted from the first call on.
  induction history generalizing effect with
  | nil => exact List.append_nil _
  | cons call history ih =>
    rw [List.cons_append, allMessages, allMessages, ih, List.append_assoc]
    rfl

namespace Machine

/-- All queues, the one that is attached at the end. -/
def sessions (machine : Machine) : List Session :=
  machine.past ++ machine.current.toList

/-- All messages that were logged, in the order of the queues. -/
def logged (machine : Machine) : List Message :=
  machine.sessions.flatMap Session.logged

/-- The listener adds nothing to what was logged. -/
@[simp] theorem logged_listen (machine : Machine) : machine.listen.logged = machine.logged := by
  -- A message that is handed over is still one of the session.
  rw [listen]
  split
  · rfl
  next session attached =>
    split
    · rfl
    · simp [logged, sessions, attached, Session.take]

/-- Stopping the listener adds nothing to what was logged. -/
@[simp] theorem logged_stop (machine : Machine) : machine.stop.logged = machine.logged := by
  -- To stop, the listener comes to its turn for each message that waits, and none of the turns logs anything.
  have same : (listen^[machine.backlog] machine).logged = machine.logged :=
    Function.Iterate.rec (fun later : Machine => later.logged = machine.logged) rfl
      (fun later same => (logged_listen later).trans same) machine.backlog
  rw [← same]
  simp [stop, logged, sessions]

/-- A call adds its messages to what was logged. -/
theorem Sound.logged_call (sound : machine.Sound foreign) (alien : Handler.queue ∉ foreign) (call : Call) :
    (machine.call workingDirectory call).logged = machine.logged ++ machine.effect.logger.messages call := by
  cases call with
  | shutDown => exact (logged_stop machine).trans (List.append_nil _).symm
  | configure options force =>
    rw [Logger.messages, List.append_nil, Machine.call]
    split
    next => rfl
    next =>
      -- To a queue that was just attached nothing was logged.
      refine Eq.trans ?_ (logged_stop machine)
      rw [logged, logged, sessions, sessions, List.flatMap_append, List.flatMap_append]
      refine congrArg _ ?_
      dsimp only
      split <;> rfl
  | log time record =>
    rw [Machine.call, Logger.messages]
    split
    next heard =>
      -- A logger that hears has a queue, to which the message is put.
      obtain ⟨session, attached⟩ := sound.exists_current alien heard
      simp [logged, sessions, attached, Session.put]
    next => exact (List.append_nil _).symm

/-- Through all moves what was logged are the messages of the calls. -/
theorem logged_run (alien : Handler.queue ∉ foreign) (level : Level) (store : Store) (moves : List Move) :
    ((start foreign level store).run workingDirectory moves).logged =
      (Effect.start foreign level store).allMessages workingDirectory (callsOf moves) := by
  -- The listener's moves are not among the calls, and change neither side.
  induction moves using List.reverseRecOn with
  | nil => rfl
  | append_singleton moves last ih =>
    rw [run_append_singleton]
    cases last with
    | listen => rw [move, logged_listen, ih, callsOf_append_listen]
    | call call =>
      have sound := Sound.run alien workingDirectory level store moves
      rw [move, sound.logged_call alien, ih, logger_run alien, callsOf_append_call,
        Effect.allMessages_append_singleton]

end Machine

end Completeness

section Delivery

variable {workingDirectory : Text} {foreign : List Handler} {machine : Machine}

/-- What is owed to those that attached handlers of their own, and to the sinks. -/
structure Machine.Reliable (workingDirectory : Text) (foreign : List Handler) (machine : Machine) : Prop where
  /-- The handlers of others stay as they are, and behind them there is the queue, while it is listened to. -/
  handlers : machine.effect.logger.handlers =
    foreign ++ if machine.effect.logger.listener.isSome then [Handler.queue] else []
  /-- The queue is attached once at most. -/
  once : machine.effect.logger.handlers.count Handler.queue ≤ 1
  /-- The queue is attached exactly while it is listened to. -/
  attached : Handler.queue ∈ machine.effect.logger.handlers ↔ machine.effect.logger.listener.isSome = true
  /-- The listener works for the queue that is attached. -/
  listener : machine.effect.logger.listener = machine.current.map Session.sinks
  /-- Of the queue that is attached each sink was handed what was logged, in order, but for what waits. -/
  current : ∀ session ∈ machine.current, ∀ sink ∈ session.sinks,
    session.handedTo sink ++ session.waiting = session.logged
  /-- Of each queue that was attached before each sink was handed what was logged, in order. -/
  past : ∀ session ∈ machine.past, ∀ sink ∈ session.sinks, session.handedTo sink = session.logged
  /-- Only the sinks that were opened for a queue are handed something from it. -/
  others : ∀ session ∈ machine.sessions, ∀ sink ∉ session.sinks, session.handedTo sink = []
  /-- What is logged while no queue is attached goes nowhere. -/
  silent : Handler.queue ∉ machine.effect.logger.handlers →
    ∀ time record, machine.call workingDirectory (.log time record) = machine

/-- A sound machine is reliable. -/
theorem Machine.Sound.reliable (sound : machine.Sound foreign) (alien : Handler.queue ∉ foreign) :
    machine.Reliable workingDirectory foreign where
  handlers := sound.logger.handlers
  once := by
    rw [sound.logger.count_queue alien]
    split <;> decide
  attached := sound.logger.queue_mem_iff alien
  listener := sound.listener
  current session attached sink opened := (sound.current session attached).handedTo_append opened
  past session member sink opened := by
    obtain ⟨inOrder, idle⟩ := sound.past session member
    rw [← inOrder.handedTo_append opened, idle, List.append_nil]
  others session member sink unopened := by
    rcases List.mem_append.mp member with before | now
    · exact (sound.past session before).1.handedTo_eq_nil unopened
    · exact (sound.current session (Option.mem_toList.mp now)).handedTo_eq_nil unopened
  -- A logger without a queue hears nothing.
  silent absent time record := by
    have unheard : ¬ machine.effect.logger.hears record = true := fun heard => absent (Logger.hears_iff.mp heard).2
    rw [Machine.call, if_neg unheard]

/--
Whatever a program asks of its logger, and whenever the listener comes to its turn, the logger is reliable.

What was logged to all queues are the messages of the calls. Where the listener is stopped, the same was brought about
as where each record is written at once.
-/
theorem run_delivers (workingDirectory : Text) (alien : Handler.queue ∉ foreign) (level : Level) (store : Store)
    (moves : List Move) :
    let begin := Effect.start foreign level store
    let now := (Machine.start foreign level store).run workingDirectory moves
    now.Reliable workingDirectory foreign ∧
      now.logged = begin.allMessages workingDirectory (callsOf moves) ∧
      now.effect.logger = (begin.calls workingDirectory (callsOf moves)).logger ∧
      now.stop.effect = begin.calls workingDirectory (callsOf moves) := by
  -- One invariant of the machine carries all four facts through the run.
  intro begin now
  have sound : now.Sound foreign := Machine.Sound.run alien workingDirectory level store moves
  refine ⟨sound.reliable alien, ?_, ?_, ?_⟩
  · exact Machine.logged_run alien level store moves
  · exact Machine.logger_run alien level store moves
  · exact Machine.effect_stop_run alien level store moves

/-- What still waits when a logger is configured by force is handed on, and nothing more after it is shut down. -/
theorem run_delivers_forced :
    let foreign := [Handler.foreign "host".toList]
    let one : Record := ⟨Level.info, [], "one".toList⟩
    let two : Record := ⟨Level.error, [], "two".toList⟩
    let moves : List Move :=
      [.call (.configure {} false), .call (.log [] one), .listen, .call (.log [] two),
        .call (.configure { level := "ERROR".toList, file := some "log".toList } true), .call (.log [] one),
        .call (.log [] two), .call .shutDown, .call (.log [] two)]
    let now := (Machine.start foreign Level.warning {}).run ['/'] moves
    Handler.queue ∉ foreign ∧ now.Reliable ['/'] foreign ∧
      now.past.map Session.logged = [[⟨[], one⟩, ⟨[], two⟩], [⟨[], two⟩]] ∧
      now.stop.effect.shown = "INFO | one\nERROR | two\nERROR | two\n".toList ∧
      now.past.map (fun session => session.sinks.length) = [1, 2] := by
  -- What the console shows is known from the calls alone, without the turns of the listener.
  intro foreign one two moves now
  have alien : Handler.queue ∉ foreign := by decide
  obtain ⟨reliable, _, _, same⟩ := run_delivers ['/'] alien Level.warning {} moves
  refine ⟨alien, reliable, by decide +kernel, ?_, by decide +kernel⟩
  rw [same]
  decide +kernel

end Delivery

end AssetCatalog.Log
