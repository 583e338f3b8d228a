import AssetCatalog.CommandLine.Options
import AssetCatalog.Settings.Value
import AssetCatalog.Text.Shown

/-! The arguments of a command, read as options with their values. -/

namespace AssetCatalog.CommandLine

/-- What is wrong with the arguments of a command. -/
inductive UsageError where
  /-- A shortened option could be one of several. -/
  | ambiguous (argument : Text) (spellings : List Text)
  /-- The argument of an option is missing. -/
  | missingValue (option : CommandOption)
  /-- An argument is given to an option that takes none. -/
  | unwantedValue (option : CommandOption) (value : Text)
  /-- Arguments belong to no option. -/
  | unrecognized (arguments : List Text)
deriving DecidableEq, Repr

/-- The wording of an error. -/
def UsageError.message : UsageError → Text
  | ambiguous argument spellings =>
    "ambiguous option: " ++ argument ++ " could match " ++ Text.joinWith ", " spellings
  | missingValue option => "argument " ++ option.name ++ ": expected one argument"
  | unwantedValue option value =>
    "argument " ++ option.name ++ ": ignored explicit argument " ++ Text.shown value
  | unrecognized arguments => "unrecognized arguments: " ++ Text.joinWith [' '] arguments

/-- What an argument is, seen by itself. -/
inductive Role where
  /-- An option, with what is spelled behind it in the same argument. -/
  | option (option : CommandOption) (spelling : Text) (value : Option Text)
  /-- Something that looks like an option and is none. -/
  | unknown
  /-- Something that may be a value. -/
  | plain
  /-- The two hyphens that end the options. -/
  | separator
deriving DecidableEq, Repr

/-- Whether a text is a negative number in decimal notation. -/
def isNegativeNumber (text : Text) : Bool :=
  -- One line break at the end does not count.
  match text with
  | '-' :: rest =>
    let rest := if rest.getLast? = some '\n' then rest.dropLast else rest
    let digits (text : Text) : Bool := !text.isEmpty && text.all Unicode.isDecimalDigit
    digits rest || match Text.cutFirst? '.' rest with
      | some (before, after) => before.all Unicode.isDecimalDigit && digits after
      | none => false
  | _ => false

/-- The options that a spelling may be short for. -/
def candidates (argument : Text) : List (CommandOption × Text × Option Text) :=
  -- A long option may be cut short; a short one may have its value directly behind it.
  match argument with
  | '-' :: '-' :: _ =>
    let (spelled, value) := match Text.cutFirst? '=' argument with
      | some (before, after) => (before, some after)
      | none => (argument, none)
    (spellings.filter fun entry => Text.startsWith entry.1 spelled).map fun entry => (entry.2, entry.1, value)
  | _ =>
    (spellings.filter fun entry => entry.1 = argument.take 2).map fun entry =>
      (entry.2, entry.1, some (argument.drop 2))

/-- What an argument is that starts with a hyphen and is no spelling of an option. -/
def indirectRole (argument : Text) : Except UsageError Role :=
  let direct := match Text.cutFirst? '=' argument with
    | some (before, after) => (spellings.lookup before).map fun option => Role.option option before (some after)
    | none => none
  match direct, candidates argument with
  | some role, _ => .ok role
  -- An option may be cut short as long as no other one begins alike.
  | none, [(option, spelling, value)] => .ok (.option option spelling value)
  | none, [] =>
    -- No option looks like a number or has a blank in it.
    if isNegativeNumber argument || argument.contains ' ' then .ok .plain else .ok .unknown
  | none, several => .error (.ambiguous argument (several.map fun candidate => candidate.2.1))

/-- What an argument is in front of two hyphens. -/
def role (argument : Text) : Except UsageError Role :=
  match argument with
  | '-' :: rest =>
    match spellings.lookup argument with
    | some option => .ok (.option option argument none)
    | none => if rest.isEmpty then .ok .plain else indirectRole argument
  | _ => .ok .plain

/-- The arguments with what they are; behind two hyphens nothing is an option. -/
def roles : List Text → Except UsageError (List (Text × Role))
  | [] => .ok []
  | argument :: rest =>
    if argument = ['-', '-'] then
      .ok ((argument, .separator) :: rest.map fun argument => (argument, Role.plain))
    else do
      let found ← role argument
      return (argument, found) :: (← roles rest)

/-- The values of the options that were given, the last one of each first. -/
abbrev Given := List (Subject × Value)

/-- What a command line asks for. -/
inductive Request where
  /-- To explain the options. -/
  | explain
  /-- To run with the options that were given. -/
  | run (given : Given)
  /-- Nothing that can be done. -/
  | refuse (error : UsageError)

/-- The value of an option that takes one; two hyphens leave nothing in its place. -/
def givenValue (value : Text) : Value :=
  if value = ['-', '-'] then .list [] else .text value

/-- Whether short options that are joined in one argument end well, and how many arguments behind them they take. -/
def joined (option : CommandOption) (spelling value : Text) (next : Option Role) :
    Nat → Except UsageError Nat
  -- The first of the joined options explains the others, so that only their errors count.
  | 0 => .ok 0
  | fuel + 1 =>
    if option.takesValue then .ok 0
    else match spelling, value with
      | '-' :: '-' :: _, _ | _, [] => .error (.unwantedValue option value)
      | _, letter :: rest =>
        match spellings.lookup ['-', letter] with
        | none => .error (.unwantedValue option value)
        | some following =>
          if !rest.isEmpty then joined following ['-', letter] rest next fuel
          else if !following.takesValue then .ok 0
          else if next = some .plain then .ok 1
          else .error (.missingValue following)

/-- What the arguments ask for, behind those already read. -/
def read (given : Given) (extras : List Text) : List (Text × Role) → Request
  | [] => if extras.isEmpty then .run given else .refuse (.unrecognized extras)
  | (_, .option option spelling value) :: rest =>
    match value with
    | some value =>
      if option.takesValue then read ((option.subject, givenValue value) :: given) extras rest
      -- Only the option for help has a short spelling and no value, so nothing is run with options joined to it.
      else match joined option spelling value (rest.head?.map Prod.snd) value.length.succ with
        | .ok _ => .explain
        | .error error => .refuse error
    | none =>
      if option.subject = .help then .explain
      else if option.takesValue then
        match rest with
        -- What starts like an option is not taken for a value, even where it is none.
        | (value, .plain) :: rest => read ((option.subject, givenValue value) :: given) extras rest
        | _ => .refuse (.missingValue option)
      else read ((option.subject, .bool true) :: given) extras rest
  | (argument, _) :: rest => read given (extras ++ [argument]) rest

/-- What a command line asks for. -/
def request (arguments : List Text) : Request :=
  match roles arguments with
  | .ok found => read [] [] found
  | .error error => .refuse error

/-- What is printed about an error: how the command is called, and the message. -/
def refusal (error : UsageError) : Text :=
  usage ++ "assetgen: error: " ++ error.message ++ ['\n']

end AssetCatalog.CommandLine
