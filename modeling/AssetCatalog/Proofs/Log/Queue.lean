import AssetCatalog.Proofs.Log.Course
import Mathlib.Logic.Function.Iterate

/-! The queue between a logger and its sinks, with a listener that works on its own. -/

namespace AssetCatalog.Log

/-- A record that was logged at a time. -/
structure Message where
  /-- The time. -/
  time : Text
  /-- The record. -/
  record : Record
deriving DecidableEq

/-- A queue since it was attached: what was put into it, and what its listener has done with it. -/
structure Session where
  /-- The sinks that were opened for it. -/
  sinks : List Sink
  /-- The messages that were logged while the queue was attached, and reached the level of the logger. -/
  logged : List Message := []
  /-- The messages that the listener has still to take, the next one in front. -/
  waiting : List Message := []
  /-- What the listener handed to the sinks. -/
  handed : List (Sink × Message) := []

namespace Session

/-- The messages that a sink was handed, in order. -/
def handedTo (session : Session) (sink : Sink) : List Message :=
  (session.handed.filter fun delivery => delivery.1 = sink).map Prod.snd

/-- The sinks that take a message. -/
def takers (session : Session) (message : Message) : List Sink :=
  session.sinks.filter fun sink => sink.level ≤ message.record.level

/-- Puts a message at the end of the queue. -/
def put (session : Session) (message : Message) : Session :=
  { session with logged := session.logged ++ [message], waiting := session.waiting ++ [message] }

/-- Notes that a message was handed to those that take it, with the messages that wait behind it. -/
def take (session : Session) (message : Message) (rest : List Message) : Session :=
  { session with
    waiting := rest
    handed := session.handed ++ (session.takers message).map fun sink => (sink, message) }

end Session

/-- What is brought about by handing a message to sinks, one after the other. -/
def Effect.hand (effect : Effect) (message : Message) (sinks : List Sink) : Effect :=
  sinks.foldl (fun effect sink =>
    let (shown, store) := sink.target.write message.time message.record effect.store
    { effect with store, shown := effect.shown ++ shown }) effect

/-- Handing on a message does not change the logger. -/
@[simp] theorem Effect.logger_hand (effect : Effect) (message : Message) (sinks : List Sink) :
    (effect.hand message sinks).logger = effect.logger :=
  List.foldlRecOn (motive := fun next : Effect => next.logger = effect.logger) _ _ rfl fun _ same _ _ => same

/-- Whether a logger puts a record in its queue. -/
def Logger.hears (logger : Logger) (record : Record) : Bool :=
  record.reaches logger.level && logger.handlers.contains Handler.queue

/-- A record is put in the queue if it reaches the level of the logger and the queue is attached. -/
theorem Logger.hears_iff {logger : Logger} {record : Record} :
    logger.hears record = true ↔ record.reaches logger.level = true ∧ Handler.queue ∈ logger.handlers := by
  simp [Logger.hears]

/-- A program with its logger, and beside it a listener that works on its own. -/
structure Machine where
  /-- What was brought about. -/
  effect : Effect
  /-- The queue that is attached. -/
  current : Option Session := none
  /-- The queues that were attached before. -/
  past : List Session := []

/-- What can happen next. -/
inductive Move where
  /-- The program calls its logger. -/
  | call (call : Call)
  /-- The listener comes to its turn. -/
  | listen

namespace Machine

/-- A machine whose logger was asked for nothing yet. -/
def start (foreign : List Handler) (level : Level) (store : Store) : Machine where
  effect := .start foreign level store

/-- The listener takes the next message, where one waits, and hands it to each sink that takes it. -/
def listen (machine : Machine) : Machine :=
  match machine.current with
  | none => machine
  | some session =>
    match session.waiting with
    | [] => machine
    | message :: rest =>
      { machine with
        effect := machine.effect.hand message (session.takers message)
        current := some (session.take message rest) }

/-- The number of messages that wait. -/
def backlog (machine : Machine) : Nat :=
  machine.current.elim 0 fun session => session.waiting.length

/-- The listener takes all that waits, and then the queue is given up. -/
def stop (machine : Machine) : Machine :=
  let idle := listen^[machine.backlog] machine
  { idle with current := none, past := idle.past ++ idle.current.toList }

/-- The program calls its logger: the listener is stopped before its sinks are given up, and a record waits its turn. -/
def call (workingDirectory : Text) (machine : Machine) : Call → Machine
  | .configure options force =>
    if machine.effect.logger.passesOver force then machine
    else
      let sinks := options.sinks workingDirectory machine.stop.effect.store
      { machine.stop with
        effect := machine.stop.effect.call workingDirectory (.configure options force)
        current := if sinks.isEmpty then none else some { sinks } }
  | .log time record =>
    if machine.effect.logger.hears record then
      { machine with current := machine.current.map fun session => session.put ⟨time, record⟩ }
    else machine
  | .shutDown => { machine.stop with effect := machine.stop.effect.call workingDirectory .shutDown }

/-- What is after a move. -/
def move (workingDirectory : Text) (machine : Machine) : Move → Machine
  | .call call => machine.call workingDirectory call
  | .listen => machine.listen

/-- What is after moves, one after the other. -/
def run (workingDirectory : Text) (machine : Machine) (moves : List Move) : Machine :=
  moves.foldl (move workingDirectory) machine

/-- The last move comes behind the others. -/
@[simp] theorem run_append_singleton (workingDirectory : Text) (machine : Machine) (moves : List Move) (last : Move) :
    machine.run workingDirectory (moves ++ [last]) =
      (machine.run workingDirectory moves).move workingDirectory last := by
  -- A fold over a list with one more entry ends with that entry.
  rw [run, List.foldl_append]
  rfl

end Machine

section Sessions

variable {session : Session} {message : Message} {rest : List Message} {sink : Sink}

/-- Each message that was logged waits still, or was handed to each of the sinks; and it happened in order. -/
structure Session.InOrder (session : Session) : Prop where
  /-- No sink was opened twice. -/
  nodup : session.sinks.Nodup
  /-- Each message reaches the level of each sink. -/
  reached : ∀ message ∈ session.logged, ∀ sink ∈ session.sinks, sink.level ≤ message.record.level
  /-- The messages in front of those that wait were handed on, each to all sinks. -/
  handed : ∃ taken, session.logged = taken ++ session.waiting ∧
    session.handed = taken.flatMap fun message => session.sinks.map fun sink => (sink, message)

/-- All sinks take the next message. -/
theorem Session.InOrder.takers_eq (inOrder : session.InOrder) (next : session.waiting = message :: rest) :
    session.takers message = session.sinks := by
  -- The message waits, so it was logged, and what was logged reaches every sink.
  obtain ⟨taken, whole, _⟩ := inOrder.handed
  have known : message ∈ session.logged := by simp [whole, next]
  exact List.filter_eq_self.mpr fun sink member => decide_eq_true (inOrder.reached message known sink member)

/-- Taking the next message keeps the order. -/
theorem Session.InOrder.take (inOrder : session.InOrder) (next : session.waiting = message :: rest) :
    (session.take message rest).InOrder := by
  -- The message moves from the front of the queue to the end of what was taken.
  obtain ⟨taken, whole, before⟩ := inOrder.handed
  refine ⟨inOrder.nodup, inOrder.reached, taken ++ [message], ?_, ?_⟩
  · rw [next] at whole
    simpa [Session.take] using whole
  · simp [Session.take, inOrder.takers_eq next, before]

/-- Putting a message that reaches all sinks keeps the order. -/
theorem Session.InOrder.put (inOrder : session.InOrder)
    (reaches : ∀ sink ∈ session.sinks, sink.level ≤ message.record.level) : (session.put message).InOrder := by
  -- What was handed over is not touched, and the message comes behind all that waits.
  obtain ⟨taken, whole, before⟩ := inOrder.handed
  refine ⟨inOrder.nodup, fun other member sink opened => ?_, taken, ?_, before⟩
  · rcases List.mem_append.mp member with known | new
    · exact inOrder.reached other known sink opened
    · rw [List.mem_singleton.mp new]
      exact reaches sink opened
  · rw [Session.put, whole, List.append_assoc]

/-- A queue that was just attached is in order. -/
theorem Session.InOrder.attached {sinks : List Sink} (nodup : sinks.Nodup) : Session.InOrder { sinks } :=
  ⟨nodup, fun _ member => absurd member List.not_mem_nil, [], rfl, rfl⟩

/-- Of what is handed on to different sinks for one message, just one delivery is to each. -/
theorem filter_deliveries {sinks : List Sink} (nodup : sinks.Nodup) (opened : sink ∈ sinks) (message : Message) :
    (sinks.map fun other => (other, message)).filter (fun delivery => delivery.1 = sink) = [(sink, message)] := by
  -- A list without repetitions has its member once.
  have once : sinks.filter (fun other => other = sink) = [sink] := by
    rw [List.filter_eq, nodup.count, if_pos opened]
    rfl
  rw [List.filter_map]
  exact congrArg (List.map _) once

/-- What a sink was handed, and behind it what waits, are the messages that were logged. -/
theorem Session.InOrder.handedTo_append (inOrder : session.InOrder) (opened : sink ∈ session.sinks) :
    session.handedTo sink ++ session.waiting = session.logged := by
  obtain ⟨taken, whole, before⟩ := inOrder.handed
  -- The deliveries to the sink are picked out message by message.
  have each (message : Message) := filter_deliveries inOrder.nodup opened message
  rw [Session.handedTo, whole, before, List.filter_flatMap, List.map_flatMap]
  simp [each]

/-- A sink that was not opened for a queue is handed nothing from it. -/
theorem Session.InOrder.handedTo_eq_nil (inOrder : session.InOrder) (unopened : sink ∉ session.sinks) :
    session.handedTo sink = [] := by
  -- Everything that was handed over went to one of the sinks that the queue was opened with.
  obtain ⟨taken, _, before⟩ := inOrder.handed
  have never : ∀ delivery ∈ session.handed, ¬ delivery.1 = sink := by
    rintro delivery member rfl
    rw [before] at member
    obtain ⟨message, _, here⟩ := List.mem_flatMap.mp member
    obtain ⟨other, opened, rfl⟩ := List.mem_map.mp here
    exact unopened opened
  rw [Session.handedTo, List.map_eq_nil_iff, List.filter_eq_nil_iff]
  simpa using never

end Sessions

section Listening

variable {machine : Machine} {session : Session} {message : Message} {rest : List Message}

namespace Machine

/-- Where nothing waits the listener does nothing. -/
theorem listen_of_backlog_eq_zero (idle : machine.backlog = 0) : machine.listen = machine := by
  -- A backlog of zero is an empty queue, or none at all.
  rw [backlog] at idle
  rw [listen]
  split
  · rfl
  next session attached =>
    have none : session.waiting = [] := List.length_eq_zero_iff.mp (by simpa [attached] using idle)
    rw [none]

/-- What the listener does with the next message. -/
theorem listen_of_waiting (attached : machine.current = some session) (next : session.waiting = message :: rest) :
    machine.listen =
      { machine with
        effect := machine.effect.hand message (session.takers message)
        current := some (session.take message rest) } := by
  simp only [listen, attached, next]

/-- The listener takes one message at a time. -/
theorem backlog_listen (machine : Machine) : machine.listen.backlog = machine.backlog - 1 := by
  -- Without a queue nothing waits, so one message less is none as well.
  rw [listen]
  split
  next absent => simp [backlog, absent]
  next session attached =>
    split
    next next => simp [backlog, attached, next]
    next message rest next => simp [backlog, attached, next, Session.take]

/-- With each turn of the listener one message less waits. -/
theorem backlog_iterate_listen (machine : Machine) (turns : Nat) :
    (listen^[turns] machine).backlog = machine.backlog - turns := by
  -- Each turn takes one off, also when nothing waits, as subtraction stops at zero.
  induction turns with
  | zero => rfl
  | succ turns ih => rw [Function.iterate_succ_apply', backlog_listen, ih, Nat.sub_sub]

/-- Whether the listener had its turn just before it is stopped does not matter. -/
theorem stop_listen (machine : Machine) : machine.listen.stop = machine.stop := by
  rcases Nat.eq_zero_or_eq_succ_pred machine.backlog with idle | busy
  · rw [listen_of_backlog_eq_zero idle]
  · -- One turn, and then as many as there are left, are all turns that are needed.
    have fewer : machine.listen.backlog = machine.backlog.pred := backlog_listen machine
    rw [stop, fewer, ← Function.iterate_succ_apply listen, ← busy]
    rfl

/-- A listener that is stopped hands on all that waits. -/
theorem effect_stop (attached : machine.current = some session) :
    machine.stop.effect =
      session.waiting.foldl (fun effect message => effect.hand message (session.takers message)) machine.effect := by
  -- By the messages that wait: the listener may take the first one before it is stopped.
  induction next : session.waiting generalizing machine session with
  | nil => simp [stop, backlog, attached, next]
  | cons message rest ih =>
    have fewer : machine.listen.current = some (session.take message rest) := by
      rw [listen_of_waiting attached next]
    rw [← stop_listen, ih fewer rfl, listen_of_waiting attached next]
    rfl

/-- Where no queue is attached there is nothing to stop. -/
theorem effect_stop_of_backlog_eq_zero (idle : machine.backlog = 0) : machine.stop.effect = machine.effect := by
  -- The listener takes no turn before it is given up.
  rw [stop, idle]
  rfl

end Machine

end Listening

section Soundness

variable {workingDirectory : Text} {foreign : List Handler} {machine : Machine}

namespace Machine

/-- What is always so with a machine whose logger had the handlers of others at first. -/
structure Sound (foreign : List Handler) (machine : Machine) : Prop where
  /-- The logger is sound. -/
  logger : machine.effect.logger.Sound foreign
  /-- The listener works for the queue that is attached. -/
  listener : machine.effect.logger.listener = machine.current.map Session.sinks
  /-- The queue that is attached is in order. -/
  current : ∀ session ∈ machine.current, session.InOrder
  /-- The queues that were attached before are in order, and nothing waits in them. -/
  past : ∀ session ∈ machine.past, session.InOrder ∧ session.waiting = []

/-- The listener does not change the logger. -/
@[simp] theorem logger_listen (machine : Machine) : machine.listen.effect.logger = machine.effect.logger := by
  -- Whatever the listener hands on, it hands it to the sinks.
  rw [listen]
  split
  · rfl
  · split
    · rfl
    · exact Effect.logger_hand ..

/-- The listener keeps a machine sound. -/
theorem Sound.listen (sound : machine.Sound foreign) : machine.listen.Sound foreign := by
  -- Only where a message waits does the listener do something.
  cases attached : machine.current with
  | none => rwa [listen_of_backlog_eq_zero (by simp [backlog, attached])]
  | some session =>
    cases next : session.waiting with
    | nil => rwa [listen_of_backlog_eq_zero (by simp [backlog, attached, next])]
    | cons message rest =>
      have inOrder := sound.current session attached
      have listener := sound.listener
      rw [attached] at listener
      rw [listen_of_waiting attached next]
      -- The sinks write and the session goes on to the next message; all else is as it was.
      refine ⟨?_, ?_, fun later same => ?_, sound.past⟩
      · rw [Effect.logger_hand]
        exact sound.logger
      · rw [Effect.logger_hand]
        exact listener
      · obtain rfl := Option.some.inj same
        exact inOrder.take next

/-- Any turns of the listener keep a machine sound. -/
theorem Sound.iterate_listen (sound : machine.Sound foreign) (turns : Nat) :
    (Machine.listen^[turns] machine).Sound foreign :=
  Function.Iterate.rec (Sound foreign) sound (fun _ => Sound.listen) turns

/-- The listener, also in any turns, does not change the logger. -/
theorem logger_iterate_listen (machine : Machine) (turns : Nat) :
    (listen^[turns] machine).effect.logger = machine.effect.logger :=
  Function.Iterate.rec (fun later : Machine => later.effect.logger = machine.effect.logger) rfl
    (fun later same => (logger_listen later).trans same) turns

/-- Stopping the listener does not change the logger. -/
@[simp] theorem logger_stop (machine : Machine) : machine.stop.effect.logger = machine.effect.logger :=
  logger_iterate_listen machine machine.backlog

/-- Once the listener is stopped, all queues are in order and nothing waits. -/
theorem Sound.past_stop (sound : machine.Sound foreign) :
    ∀ session ∈ machine.stop.past, session.InOrder ∧ session.waiting = [] := by
  -- There were as many turns as messages that waited.
  have idle := sound.iterate_listen machine.backlog
  have none : (Machine.listen^[machine.backlog] machine).backlog = 0 := by
    rw [backlog_iterate_listen, Nat.sub_self]
  intro session member
  rcases List.mem_append.mp member with known | last
  · exact idle.past session known
  · have attached := Option.mem_toList.mp last
    refine ⟨idle.current session attached, ?_⟩
    rw [backlog, Option.mem_def.mp attached] at none
    exact List.length_eq_zero_iff.mp none

/-- Once the listener is stopped, the logger is as sound as before. -/
theorem Sound.stop_logger (sound : machine.Sound foreign) : machine.stop.effect.logger.Sound foreign :=
  logger_stop machine ▸ sound.logger

/-- A machine that is stopped may be given a logger without a queue. -/
theorem Sound.stopped (sound : machine.Sound foreign) {effect : Effect} (logger : effect.logger.Sound foreign)
    (silent : effect.logger.listener = none) : Sound foreign { machine.stop with effect } where
  logger := logger
  listener := silent
  current _ attached := nomatch attached
  past := sound.past_stop

/-- A record that is put in the queue keeps a machine sound. -/
theorem Sound.log (sound : machine.Sound foreign) (time : Text) (record : Record) :
    (machine.call workingDirectory (.log time record)).Sound foreign := by
  rw [Machine.call]
  split
  next heard =>
    -- The logger and the sessions of the past are as they were, and the record waits in the current one.
    refine ⟨sound.logger, ?_, fun session attached => ?_, sound.past⟩
    · rw [sound.listener, Option.map_map]
      rfl
    · -- The sinks have the level of the logger, which the record reaches.
      obtain ⟨before, known, rfl⟩ := Option.map_eq_some_iff.mp attached
      have listening : before.sinks ∈ machine.effect.logger.listener := by
        rw [sound.listener, known]
        rfl
      have reaches : machine.effect.logger.level ≤ record.level :=
        (by simpa [Record.reaches] using (Logger.hears_iff.mp heard).1 : _ ∧ _).2
      refine (sound.current before known).put fun sink opened => ?_
      rwa [sound.logger.levels before.sinks listening sink opened]
  next => exact sound

/-- A configuration keeps a machine sound. -/
theorem Sound.configure (sound : machine.Sound foreign) (alien : Handler.queue ∉ foreign) (options : Options)
    (force : Bool) : (machine.call workingDirectory (.configure options force)).Sound foreign := by
  have after := sound.stop_logger.call alien workingDirectory (.configure options force)
  rw [Machine.call]
  split
  next => exact sound
  next heard =>
    rw [← logger_stop] at heard
    rcases logger_configure_cases workingDirectory options force machine.stop.effect.logger
      machine.stop.effect.store with ⟨passed, _⟩ | ⟨_, none, same⟩ | ⟨_, some, same⟩
    · exact absurd passed heard
    · -- Without a sink no queue is attached.
      simp only [none, List.isEmpty_nil, if_true]
      refine sound.stopped after ?_
      rw [Effect.call, Effect.logger_andThen, same]
      rfl
    · -- The queue is a new one, and leads to the sinks that were just opened.
      simp only [List.isEmpty_iff, some, if_false]
      refine ⟨after, ?_, fun session attached => ?_, sound.past_stop⟩
      · rw [Effect.call, Effect.logger_andThen, same]
        rfl
      · obtain rfl := Option.some.inj attached
        exact .attached (options.nodup_sinks workingDirectory machine.stop.effect.store)

/-- A call of the program keeps a machine sound. -/
theorem Sound.call (sound : machine.Sound foreign) (alien : Handler.queue ∉ foreign) :
    (call : Call) → (machine.call workingDirectory call).Sound foreign
  | .configure options force => sound.configure alien options force
  | .log time record => sound.log time record
  | .shutDown => sound.stopped (sound.stop_logger.call alien workingDirectory .shutDown) rfl

/-- Through all moves a machine stays sound. -/
theorem Sound.run (alien : Handler.queue ∉ foreign) (workingDirectory : Text) (level : Level) (store : Store)
    (moves : List Move) :
    ((Machine.start foreign level store).run workingDirectory moves).Sound foreign := by
  -- Each move keeps the machine sound, be it a call or one of the listener's own.
  induction moves using List.reverseRecOn with
  | nil =>
    exact ⟨Logger.Sound.calls alien workingDirectory level store [], rfl, nofun, nofun⟩
  | append_singleton moves last ih =>
    rw [run_append_singleton]
    cases last with
    | call call => exact ih.call alien call
    | listen => exact ih.listen

end Machine

end Soundness

end AssetCatalog.Log
