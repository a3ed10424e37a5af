/-!
# Arguments

Arguments are options, switches and operands. An option takes a value, which stands in the next
argument, or in the same argument behind its name; a switch takes none. A long name stands behind
two hyphens, and short names stand behind one, several switches in one argument. Behind `--` every
argument is an operand.

A value that stands in an argument of its own does not start with a hyphen, unless it is the hyphen
alone.
-/

namespace WidgetFlow.Command

/-- Why arguments are refused, or what is asked for instead of a run. Help is asked for on a topic,
the empty one standing for the program as a whole. -/
inductive Stop where
  | help (topic : String)
  | version
  | unknownOption (name : String)
  | missingValue (name : String)
  | unexpectedValue (name : String)
  | invalidValue (name value : String)
  | repeated (name : String)
  | unexpectedOperand (text : String)
  | unknownCommand (name : String)
  | missingCommand
  | missing (name : String)
deriving DecidableEq, Repr

/-- What an option or a switch is called, whether it takes a value, and which values it takes. -/
structure OptionSpec where
  name : String
  short? : Option Char := none
  takesValue : Bool := true
  accepts : String → Bool := fun _ => true

/-- The switch that asks for help. -/
def helpSwitch : OptionSpec := { name := "help", short? := some 'h', takesValue := false }

/-- The switch that asks for the version. -/
def versionSwitch : OptionSpec := { name := "version", short? := some 'V', takesValue := false }

/-- An option or switch that was given, with its value. -/
structure Given where
  name : String
  value : String := ""
deriving DecidableEq, Repr

/-- What has been given up to the end of an argument, with the option at its end whose value is in
the next argument, if there is one. -/
structure Parsed where
  given : List Given := []
  open? : Option OptionSpec := none

/-- What has been given, with one more option or switch; none may be given twice. -/
def addGiven (given : List Given) (g : Given) : Except Stop (List Given) :=
  if given.any (·.name = g.name) then .error (.repeated g.name) else .ok (given ++ [g])

/-- A value given to an option, if the option takes it. -/
def OptionSpec.give (o : OptionSpec) (value : String) : Except Stop Given :=
  if o.accepts value then .ok ⟨o.name, value⟩ else .error (.invalidValue o.name value)

/-- A switch that was given. -/
def OptionSpec.turnOn (o : OptionSpec) : Except Stop Given :=
  if o.name = helpSwitch.name then .error (.help "")
  else if o.name = versionSwitch.name then .error .version
  else .ok ⟨o.name, ""⟩

/-- A value behind a short name; an equals sign before it does not count. -/
def attached : List Char → String
  | '=' :: cs => String.ofList cs
  | cs => String.ofList cs

/-- Short names in one argument. They count in their order: a switch that is repeated before help
is asked for is refused. -/
def parseShorts (specs : List OptionSpec) (given : List Given) : List Char → Except Stop Parsed
  | [] => .ok { given }
  | c :: cs =>
    match specs.find? (·.short? = some c) with
    | none => .error (.unknownOption (String.singleton c))
    | some o =>
      if o.takesValue then
        if cs.isEmpty then .ok { given, open? := some o }
        else do return { given := ← addGiven given (← o.give (attached cs)) }
      else
        match o.turnOn.bind (addGiven given) with
        | .error stop => .error stop
        | .ok given => parseShorts specs given cs

/-- A long name, perhaps with a value behind an equals sign. -/
def parseLong (specs : List OptionSpec) (given : List Given) (text : List Char) :
    Except Stop Parsed :=
  let (name, rest) := text.span (· != '=')
  let name := String.ofList name
  match specs.find? (·.name = name) with
  | none => .error (.unknownOption name)
  | some o =>
    match rest, o.takesValue with
    | [], true => .ok { given, open? := some o }
    | [], false => do return { given := ← addGiven given (← o.turnOn) }
    | _ :: value, true => do
      return { given := ← addGiven given (← o.give (String.ofList value)) }
    | _ :: _, false => .error (.unexpectedValue name)

/-- What has been given up to the end of one argument; nothing for an operand. -/
def parseArgument (specs : List OptionSpec) (given : List Given) (arg : String) :
    Option (Except Stop Parsed) :=
  match arg.toList with
  | '-' :: '-' :: text => some (parseLong specs given text)
  | '-' :: c :: cs => some (parseShorts specs given (c :: cs))
  | _ => none

/-- Whether an argument may be a value on its own. -/
def isValue (arg : String) : Bool := arg = "-" || arg.toList.head? != some '-'

/-- Reads options and switches up to the first operand; gives them and what is left. -/
def parseOptions (specs : List OptionSpec) (given : List Given) :
    List String → Except Stop (List Given × List String)
  | [] => .ok (given, [])
  | "--" :: rest => .ok (given, "--" :: rest)
  | arg :: rest =>
    match parseArgument specs given arg with
    | none => .ok (given, arg :: rest)
    | some (.error stop) => .error stop
    | some (.ok ⟨given, none⟩) => parseOptions specs given rest
    | some (.ok ⟨given, some o⟩) =>
      match rest with
      | [] => .error (.missingValue o.name)
      | value :: rest =>
        if isValue value then
          match (o.give value).bind (addGiven given) with
          | .error stop => .error stop
          | .ok given => parseOptions specs given rest
        else .error (.missingValue o.name)

/-- Reads options and switches around one operand, of which `isOperand` tells whether it will do;
`n` bounds the number of arguments. -/
def parseAround (specs : List OptionSpec) (isOperand : String → Bool) :
    Nat → List Given → Option String → List String → Except Stop (List Given × Option String)
  | 0, given, operand?, _ => .ok (given, operand?)
  | n + 1, given, operand?, args =>
    let take (operand : String) : Except Stop (Option String) :=
      if operand?.isSome then .error (.unexpectedOperand operand)
      else if isOperand operand then .ok (some operand)
      else .error (.invalidValue "file" operand)
    match parseOptions specs given args with
    | .error stop => .error stop
    | .ok (given, []) => .ok (given, operand?)
    | .ok (given, "--" :: operands) => do
      match operands with
      | [] => return (given, operand?)
      | [operand] => return (given, ← take operand)
      | operand :: next :: _ =>
        let _ ← take operand
        .error (.unexpectedOperand next)
    | .ok (given, operand :: rest) => do
      let operand? ← take operand
      parseAround specs isOperand n given operand? rest

/-- The value of an option, if it was given. -/
def valueOf? (given : List Given) (name : String) : Option String :=
  (given.find? (·.name = name)).map (·.value)

/-- Whether a switch was given. -/
def isOn (given : List Given) (name : String) : Bool := given.any (·.name = name)

end WidgetFlow.Command
