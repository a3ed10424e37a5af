import WidgetFlow.Command.Arguments
import WidgetFlow.Command.Usage
import WidgetFlow.Decimal.Reader

/-!
# Invocations

The program renders a description file, or dispatches an event on a node of it first. Settings that
hold for every command may stand before the name of the command and behind it; what stands behind it
counts.
-/

namespace WidgetFlow.Command

/-- What the program is to do with a description file. -/
inductive Action where
  | render (file : String)
  | dispatch (file node event : String) (payload? : Option String) (times : Nat) (history : Bool)
deriving DecidableEq, Repr

/-- One run of the program. -/
structure Invocation where
  action : Action
  verbose : Bool := false
  config? : Option String := none
deriving DecidableEq, Repr

/-- Options that every command takes. -/
def commonSpecs : List OptionSpec :=
  [{ name := "verbose", short? := some 'v', takesValue := false },
   { name := "config", short? := some 'C', accepts := fun s => !s.isEmpty }, helpSwitch]

/-- Options of dispatching. -/
def dispatchSpecs : List OptionSpec :=
  [{ name := "node", short? := some 'n' }, { name := "event", short? := some 'e' },
   { name := "payload", short? := some 'p' },
   { name := "times", accepts := fun s => (Decimal.word? s).isSome },
   { name := "history", takesValue := false }]

/-- A stop within a command: help that is asked for there is help on the command. -/
def Stop.within (command : String) : Stop → Stop
  | .help _ => .help command
  | stop => stop

/-- The options and the file of a command. -/
def parseCommand (command : String) (specs : List OptionSpec) (args : List String) :
    Except Stop (List Given × String) := do
  let (given, file?) ← (parseAround specs (!·.isEmpty) (args.length + 1) [] none args).mapError
    (Stop.within command)
  match file? with
  | some file => return (given, file)
  | none => .error (.missing "file")

/-- What dispatching is to do. -/
def dispatchAction (given : List Given) (file : String) : Except Stop Action :=
  match valueOf? given "node" with
  | none => .error (.missing "node")
  | some node => .ok (.dispatch file node ((valueOf? given "event").getD "onClick")
      (valueOf? given "payload") (((valueOf? given "times").bind Decimal.word?).getD 1)
      (isOn given "history"))

/-- An invocation with the common options given before the command and behind it. -/
def withCommon (before behind : List Given) (action : Action) : Invocation :=
  { action
    verbose := isOn before "verbose" || isOn behind "verbose"
    config? := (valueOf? behind "config").orElse fun _ => valueOf? before "config" }

/-- What asking for help on topics comes to: a topic is a command. -/
def helpOn : List String → Stop
  | [] => .help ""
  | [name] =>
    if ["render", "dispatch", "help"].contains name then .help name else .unknownCommand name
  | name :: _ => .unknownCommand name

/-- The invocation that arguments ask for. -/
def Invocation.parse (args : List String) : Except Stop Invocation := do
  let (before, rest) ← parseOptions (commonSpecs ++ [versionSwitch]) [] args
  match rest with
  | [] => .error .missingCommand
  | "render" :: args =>
    let (behind, file) ← parseCommand "render" commonSpecs args
    return withCommon before behind (.render file)
  | "dispatch" :: args =>
    let (behind, file) ← parseCommand "dispatch" (dispatchSpecs ++ commonSpecs) args
    return withCommon before behind (← dispatchAction behind file)
  | "help" :: topics => .error (helpOn topics)
  | name :: _ => .error (.unknownCommand name)

namespace Stop

/-- What is printed instead of a run. -/
def message : Stop → String
  | .help topic => usageOf topic
  | .version => "loom 0.1.0"
  | .unknownOption name => s!"error: unexpected argument '{name}' found"
  | .missingValue name => s!"error: a value is required for '{name}' but none was supplied"
  | .unexpectedValue name => s!"error: unexpected value for '{name}' found; no more were expected"
  | .invalidValue name value => s!"error: invalid value '{value}' for '{name}'"
  | .repeated name => s!"error: the argument '{name}' cannot be used multiple times"
  | .unexpectedOperand text => s!"error: unexpected argument '{text}' found"
  | .unknownCommand name => s!"error: unrecognized command '{name}'"
  | .missingCommand => "error: a command is required but none was provided"
  | .missing name => s!"error: the required argument '{name}' was not provided"

/-- The exit code: help and version are no errors. -/
def exitCode : Stop → Nat
  | .help _ => 0
  | .version => 0
  | _ => 2

end Stop

end WidgetFlow.Command
