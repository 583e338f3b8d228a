import AssetCatalog.Log.Sink

/-! The life of a logger: it is configured, takes records for its sinks, and is shut down. -/

namespace AssetCatalog.Log

/-- How a logger is to be configured. -/
structure Options where
  /-- The name of the least level. -/
  level : Text := "INFO"
  /-- Whether lines go to the console. -/
  console : Bool := true
  /-- The file that lines go to; nothing and an empty path stand for none. -/
  file : Option Text := none
  /-- The size that the file stays below. -/
  sizeLimit : Int := 1048576
  /-- The number of older files that are kept. -/
  backupCount : Int := 2
deriving DecidableEq, Repr

/-- What records are handed to. -/
inductive Handler where
  /-- The queue that leads to the sinks. -/
  | queue
  /-- A handler that someone else attached. -/
  | foreign (name : Text)
deriving DecidableEq, Repr

/-- The state of a logger. -/
structure Logger where
  /-- The least level of the records that are handed on. -/
  level : Level := Level.warning
  /-- The handlers, the last attached one at the end. -/
  handlers : List Handler := []
  /-- The sinks that are fed from the queue, while it is listened to. -/
  listener : Option (List Sink) := none
  /-- Whether a configuration counts as done. -/
  isConfigured : Bool := false
deriving DecidableEq, Repr

/-- A logger with what it brought about. -/
structure Effect where
  /-- The logger. -/
  logger : Logger
  /-- The store. -/
  store : Store
  /-- What shows on the console. -/
  shown : Text := []

namespace Options

/-- The file of some options, seen from a directory. -/
def logFile? (options : Options) (workingDirectory : Text) : Option LogFile :=
  match options.file with
  | none | some [] => none
  | some path => some ⟨Path.absolute workingDirectory path, options.sizeLimit, options.backupCount⟩

/-- The sinks of some options: those that can be opened, with a notice about one that cannot. -/
def openSinks (options : Options) (workingDirectory : Text) (store : Store) : List Sink × Store × Text :=
  let level := Level.ofName options.level
  let onConsole : List Sink := if options.console then [⟨level, .console⟩] else []
  match options.logFile? workingDirectory with
  | none => (onConsole, store, [])
  | some file =>
    match file.openUp.run store with
    | (.ok (), store) => (onConsole ++ [⟨level, .file file⟩], store, [])
    -- A file that cannot be opened is left out, and nothing else is stopped by it.
    | (.error failure, store) =>
      (onConsole, store, "WARNING: Cannot open log file '" ++ options.file.getD [] ++ "': "
        ++ failure.message ++ ['\n'])

end Options

namespace Logger

/-- The logger without its queue. -/
def detached (logger : Logger) : Logger :=
  { logger with
    handlers := logger.handlers.filter (· != Handler.queue)
    listener := none }

/-- Opens the sinks of some options in place of earlier ones; done once, it is only repeated by force. -/
def configure (workingDirectory : Text) (options : Options) (force : Bool) (logger : Logger)
    (store : Store) : Effect :=
  -- Without a sink no queue is attached, and what counts as done stays as it was.
  if logger.isConfigured && !force then { logger, store }
  else
    let fresh := { logger.detached with level := Level.ofName options.level }
    let (sinks, store, shown) := options.openSinks workingDirectory store
    if sinks.isEmpty then { logger := fresh, store, shown }
    else
      let attached : Logger := { fresh with
        handlers := fresh.handlers ++ [Handler.queue]
        listener := some sinks
        isConfigured := true }
      { logger := attached, store, shown }

/-- The sinks that a record goes to. -/
def sinksFor (logger : Logger) (record : Record) : List Sink :=
  if record.reaches logger.level && logger.handlers.contains Handler.queue then
    (logger.listener.getD []).filter fun sink => sink.level ≤ record.level
  else []

/-- Writes a record to its sinks. -/
def log (time : Text) (record : Record) (logger : Logger) (store : Store) : Effect :=
  (logger.sinksFor record).foldl (fun effect sink =>
    let (shown, store) := sink.target.write time record effect.store
    { effect with store, shown := effect.shown ++ shown }) { logger, store }

/-- Writes records to their sinks, one after the other. -/
def logAll (time : Text) (records : List Record) (logger : Logger) (store : Store) : Effect :=
  records.foldl (fun effect record =>
    let next := effect.logger.log time record effect.store
    { next with shown := effect.shown ++ next.shown }) { logger, store }

/-- Ends the listening and detaches the queue. -/
def shutDown (logger : Logger) : Logger :=
  { logger.detached with isConfigured := false }

end Logger

end AssetCatalog.Log
