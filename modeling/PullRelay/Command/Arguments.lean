import PullRelay.Command.Repository
import PullRelay.Log
import PullRelay.Number.Lenient

/-!
# Arguments of the command line

Options of the program come before the name of a command, options of the command
anywhere after it; after `--` everything is an argument.  Of several faults the
first one met is reported, in the order in which the parts are looked at: options,
the name of the command, the log level, the options of the command, its
arguments from left to right, and only then arguments that are too many.
-/

namespace PullRelay

open Text

/-- What a command reads. -/
inductive Query where
  | files
  | pull
  | comments
  | reviews
deriving DecidableEq, Repr

/-- A command with its arguments. -/
inductive Command where
  | read (query : Query) (repository : RepositoryName) (number : Int)
  | rateLimit
  | config
deriving DecidableEq, Repr

/-- What is asked for on the command line: help, or a command under a log level. -/
inductive Invocation where
  | help
  | command (threshold : Int) (command : Command)
deriving DecidableEq, Repr

/-- What is wrong with a command line. -/
inductive UsageFault where
  | missingCommand
  | unknownCommand (name : String)
  | unknownOption (name : String)
  | optionWithoutValue (name : String)
  | optionWithValue (name : String)
  | badLogLevel (fault : Fault)
  | missingArgument (name : String)
  | notInteger (given : String)
  | extraArguments (given : List String)
  | notARepository (given : String)
deriving Repr

def UsageFault.message : UsageFault → String
  | .missingCommand => "Missing command."
  | .unknownCommand name => "No such command: " ++ name
  | .unknownOption name => "No such option: " ++ name
  | .optionWithoutValue name => "Option requires an argument: " ++ name
  | .optionWithValue name => "Option does not take a value: " ++ name
  | .badLogLevel fault => fault.message
  | .missingArgument name => "Missing argument: " ++ name
  | .notInteger given => "Not a valid integer: " ++ given
  | .extraArguments given => "Unexpected extra arguments: " ++ " ".intercalate given
  | .notARepository _ => "Expected " ++ RepositoryName.form

namespace CommandLine

def logLevelOption : String := "--log-level"

def helpOption : String := "--help"

def optionsEnd : String := "--"

/-- Is looked at as an option: starts with a hyphen that is not all of it. -/
def isOption (arg : String) : Bool :=
  match arg.toList with
  | '-' :: _ :: _ => true
  | _ => false

/-- The name of an option, and the value attached to it after an equals sign. -/
def splitOption (arg : String) : String × Option String :=
  let cut := splitFirst '=' arg.toList
  (String.ofList cut.1, cut.2.map String.ofList)

/-- An option that only asks for help. -/
def checkHelp (arg : String) : Except UsageFault Unit :=
  match splitOption arg with
  | (name, value) =>
    if name = helpOption then
      if value.isSome then .error (.optionWithValue name) else .ok ()
    else .error (.unknownOption name)

structure Globals where
  logLevel : String := Log.defaultLevel
  help : Bool := false

/-- Options up to the first argument, and what follows them.  The option for the
log level takes the next argument, whatever it is, unless a value is attached. -/
def takeGlobals (g : Globals) : List String → Except UsageFault (Globals × List String)
  | [] => .ok (g, [])
  | arg :: rest =>
    if arg = optionsEnd then .ok (g, rest)
    else if isOption arg then
      match splitOption arg with
      | (name, value) =>
        if name = logLevelOption then
          match value, rest with
          | some level, rest => takeGlobals { g with logLevel := level } rest
          | none, level :: rest => takeGlobals { g with logLevel := level } rest
          | none, [] => .error (.optionWithoutValue name)
        else do
          checkHelp arg
          takeGlobals { g with help := true } rest
    else .ok (g, arg :: rest)

/-- The arguments of a command among its options, and whether help is asked for. -/
def takeArguments : List String → Except UsageFault (Bool × List String)
  | [] => .ok (false, [])
  | arg :: rest =>
    if arg = optionsEnd then .ok (false, rest)
    else if isOption arg then do
      checkHelp arg
      return (true, (← takeArguments rest).2)
    else do
      let taken ← takeArguments rest
      return (taken.1, arg :: taken.2)

/-- Arguments have been used up. -/
def checkEnd (rest : List String) : Except UsageFault Unit :=
  if rest.isEmpty then .ok () else .error (.extraArguments rest)

/-- A repository and a number.  The framework that reads the command line takes a number
in the spellings that records take: `5.00` and `0-5`, and no digits but those of ASCII. -/
def readTarget : List String → Except UsageFault (RepositoryName × Int)
  | [] => .error (.missingArgument "REPO")
  | [_] => .error (.missingArgument "NUMBER")
  | repository :: number :: rest => do
    let n ← (Lenient.readWhole number).mapError fun _ ↦ .notInteger number
    checkEnd rest
    match RepositoryName.ofText? repository with
    | some name => return (name, n)
    | none => throw (.notARepository repository)

def readQuery (query : Query) (arguments : List String) : Except UsageFault Command :=
  (readTarget arguments).map fun t ↦ .read query t.1 t.2

/-- The commands by name, each with the reader of its arguments. -/
def commands : List (String × (List String → Except UsageFault Command)) :=
  [("files", readQuery .files), ("pull", readQuery .pull), ("comments", readQuery .comments),
    ("reviews", readQuery .reviews),
    ("rate-limit", fun rest ↦ (checkEnd rest).map fun _ ↦ .rateLimit),
    ("config", fun rest ↦ (checkEnd rest).map fun _ ↦ .config)]

/-- Read a command and its arguments under the options of the program. -/
def readCommand (g : Globals) (rest : List String)
    (read : List String → Except UsageFault Command) : Except UsageFault Invocation := do
  let threshold ← (Log.levelOfName g.logLevel).mapError .badLogLevel
  let taken ← takeArguments rest
  if taken.1 then return .help
  return .command threshold (← read taken.2)

/-- Nothing is known under the name in front; it may be an option out of place. -/
def refuse (name : String) (args : List String) : Except UsageFault Invocation := do
  let again ← takeGlobals {} args
  if again.1.help then return .help
  throw (.unknownCommand name)

def parse (args : List String) : Except UsageFault Invocation := do
  let (g, rest) ← takeGlobals {} args
  if g.help then return .help
  match rest with
  | [] => throw .missingCommand
  | name :: more =>
    match commands.lookup name with
    | some read => readCommand g more read
    | none => refuse name rest

end CommandLine

end PullRelay
