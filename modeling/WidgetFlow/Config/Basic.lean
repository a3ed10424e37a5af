import WidgetFlow.Widget.Kind
import WidgetFlow.Value.Outline
import WidgetFlow.Value.Record

/-!
# Configuration

The settings of an engine and of the interpreter over it, their defaults, how they are read from a
value, and what makes them valid. A description only mentions what it changes: every section and
every setting in it may be missing.
-/

namespace WidgetFlow

/-- Settings of the engine: how many events are kept, and how deep emissions may nest. -/
structure RuntimeSettings where
  eventHistoryCapacity : Nat := 100
  maxEmitDepth : Nat := 16
deriving DecidableEq, Repr

/-- Settings of the interpreter: aliases of its own, and whether an event is also emitted on the
point of its name. -/
structure InterpreterSettings where
  aliases : Dict String := []
  emitEventPoints : Bool := true
deriving DecidableEq, Repr

/-- Settings of handler code. -/
structure ScriptSettings where
  maxSteps : Nat := 10000
deriving DecidableEq, Repr

/-- Settings of automatic connections: whether they are made when a tree is mounted, and whether a
number may be connected to a text. -/
structure AutoConnectSettings where
  enabled : Bool := false
  allowNumberToText : Bool := true
deriving DecidableEq, Repr

/-- Settings of logging. -/
structure LoggingSettings where
  level : String := "info"
  directives : List String := []
deriving DecidableEq, Repr

/-- All settings. -/
structure Config where
  runtime : RuntimeSettings := {}
  interpreter : InterpreterSettings := {}
  script : ScriptSettings := {}
  autoConnect : AutoConnectSettings := {}
  logging : LoggingSettings := {}
deriving DecidableEq, Repr

/-- Why a configuration is not accepted. -/
inductive ConfigError where
  | io
  | json
  | toml
  | unsupportedFormat (extension : String)
  | invalidValue (field reason : String)
  | aliasCycle (chain : List String)
  | logging (filter : String)
deriving DecidableEq, Repr

/-- The message of a configuration that can be read and is not accepted. -/
def ConfigError.message : ConfigError → String
  | .io => "IO error"
  | .json => "JSON parse error"
  | .toml => "TOML parse error"
  | .unsupportedFormat extension => s!"Unsupported config format: {extension}"
  | .invalidValue field reason => s!"Invalid value for {field}: {reason}"
  | .aliasCycle chain => "Alias cycle detected: " ++ " -> ".intercalate chain
  | .logging filter => s!"Logging setup failed: invalid filter {filter}"

/-! ## Reading -/

/-- The names of the sections, and in each of them the names of the settings, in declared order. -/
def Config.sections : List (String × List String) :=
  [("runtime", ["event_history_capacity", "max_emit_depth"]),
   ("interpreter", ["aliases", "emit_event_points"]),
   ("script", ["max_steps"]),
   ("auto_connect", ["enabled", "allow_number_to_text"]),
   ("logging", ["level", "directives"])]

/-- What is read of a description of settings. -/
def Config.outline : Outline := .record (Config.sections.map fun (name, settings) =>
  (name, .flat settings))

/-- The settings of a section that a value describes, by name. -/
def Config.section? (name : String) (v : Value) : Option (List (String × Value)) :=
  (Config.sections.lookup name).bind v.record?

/-- The settings of the engine that a value describes. -/
def RuntimeSettings.ofValue? (v : Value) : Option RuntimeSettings := do
  let given ← Config.section? "runtime" v
  let eventHistoryCapacity ← Value.withDefault given "event_history_capacity" 100 Value.count?
  let maxEmitDepth ← Value.withDefault given "max_emit_depth" 16 Value.count?
  return { eventHistoryCapacity, maxEmitDepth }

/-- The settings of the interpreter that a value describes. -/
def InterpreterSettings.ofValue? (v : Value) : Option InterpreterSettings := do
  let given ← Config.section? "interpreter" v
  let aliases ← Value.withDefault given "aliases" [] (Value.dictOf? Value.text?)
  let emitEventPoints ← Value.withDefault given "emit_event_points" true Value.bool?
  return { aliases, emitEventPoints }

/-- The settings of handler code that a value describes. -/
def ScriptSettings.ofValue? (v : Value) : Option ScriptSettings := do
  let given ← Config.section? "script" v
  let maxSteps ← Value.withDefault given "max_steps" 10000 Value.count?
  return { maxSteps }

/-- The settings of automatic connections that a value describes. -/
def AutoConnectSettings.ofValue? (v : Value) : Option AutoConnectSettings := do
  let given ← Config.section? "auto_connect" v
  let enabled ← Value.withDefault given "enabled" false Value.bool?
  let allowNumberToText ← Value.withDefault given "allow_number_to_text" true Value.bool?
  return { enabled, allowNumberToText }

/-- The settings of logging that a value describes. -/
def LoggingSettings.ofValue? (v : Value) : Option LoggingSettings := do
  let given ← Config.section? "logging" v
  let level ← Value.withDefault given "level" "info" Value.text?
  let directives ← Value.withDefault given "directives" [] (Value.listOf? Value.text?)
  return { level, directives }

/-- The settings that a value describes. -/
def Config.ofValue? (v : Value) : Option Config := do
  let given ← v.record? (Config.sections.map (·.1))
  let runtime ← Value.withDefault given "runtime" {} RuntimeSettings.ofValue?
  let interpreter ← Value.withDefault given "interpreter" {} InterpreterSettings.ofValue?
  let script ← Value.withDefault given "script" {} ScriptSettings.ofValue?
  let autoConnect ← Value.withDefault given "auto_connect" {} AutoConnectSettings.ofValue?
  let logging ← Value.withDefault given "logging" {} LoggingSettings.ofValue?
  return { runtime, interpreter, script, autoConnect, logging }

/-! ## Writing -/

/-- The settings of the engine as a value. -/
def RuntimeSettings.toValue (s : RuntimeSettings) : Value :=
  .obj [("event_history_capacity", .ofNat s.eventHistoryCapacity),
    ("max_emit_depth", .ofNat s.maxEmitDepth)]

/-- The settings of the interpreter as a value. -/
def InterpreterSettings.toValue (s : InterpreterSettings) : Value :=
  .obj [("aliases", .obj (Dict.mapValues .str s.aliases)),
    ("emit_event_points", .bool s.emitEventPoints)]

/-- The settings of handler code as a value. -/
def ScriptSettings.toValue (s : ScriptSettings) : Value := .obj [("max_steps", .ofNat s.maxSteps)]

/-- The settings of automatic connections as a value. -/
def AutoConnectSettings.toValue (s : AutoConnectSettings) : Value :=
  .obj [("allow_number_to_text", .bool s.allowNumberToText), ("enabled", .bool s.enabled)]

/-- The settings of logging as a value. -/
def LoggingSettings.toValue (s : LoggingSettings) : Value :=
  .obj [("directives", .arr (s.directives.map .str)), ("level", .str s.level)]

/-- All settings as a value. -/
def Config.toValue (c : Config) : Value :=
  .obj [("auto_connect", c.autoConnect.toValue), ("interpreter", c.interpreter.toValue),
    ("logging", c.logging.toValue), ("runtime", c.runtime.toValue), ("script", c.script.toValue)]

/-! ## Validity -/

/-- The levels of logging. -/
def logLevels : List String := ["trace", "debug", "info", "warn", "error", "off"]

/-- The chain of aliases from a key on, if it comes back to a key it has passed. `path` holds the
keys passed so far, the last one first. An alias of a key to itself ends the chain. -/
def chainFrom (aliases : Dict String) : Nat → List String → String → Option (List String)
  | 0, _, _ => none
  | n + 1, path, key =>
    match (Dict.get? aliases key).map Text.lowerAscii with
    | none => none
    | some next =>
      if next = key then none
      else if path.contains next then some (next :: path).reverse
      else chainFrom aliases n (next :: path) next

/-- The first chain of configured aliases that runs into a loop. A chain without a loop passes
every alias at most once. -/
def aliasCycle? (aliases : Dict String) : Option (List String) :=
  let normalized := AliasTable.normalizeAliases aliases
  (Dict.keys normalized).findSome? fun start =>
    chainFrom normalized (normalized.length + 1) [start] start

/-- Checks the ranges of the settings, the level of logging and the aliases, in this order. -/
def Config.validate (c : Config) : Except ConfigError Unit :=
  if c.runtime.eventHistoryCapacity = 0 then
    .error (.invalidValue "runtime.event_history_capacity" "must be at least 1")
  else if c.runtime.maxEmitDepth = 0 then
    .error (.invalidValue "runtime.max_emit_depth" "must be at least 1")
  else if c.script.maxSteps = 0 then
    .error (.invalidValue "script.max_steps" "must be at least 1")
  else if !logLevels.contains (Text.lowerAscii c.logging.level) then
    .error (.invalidValue "logging.level" s!"unknown level '{c.logging.level}'")
  else
    match aliasCycle? c.interpreter.aliases with
    | some chain => .error (.aliasCycle chain)
    | none => .ok ()

end WidgetFlow
