import WidgetFlow.Command.Invocation
import WidgetFlow.Config.Filter
import WidgetFlow.Config.Loader
import WidgetFlow.Screen.Interaction
import WidgetFlow.Screen.Mount

/-!
# Reports

What an invocation gives: the markup of the mounted tree after the event was dispatched, and the
history of events if it is asked for. Files are given by their contents, so a report depends on
nothing else.

The configuration is read first, with its filter of logging, then the description is read and
mounted, then the payload is read, and then the event is dispatched. The first of these that fails
decides the error.
-/

namespace WidgetFlow.Command

/-- What a description file describes: an application or a tree. -/
inductive Document where
  | app (plan : AppPlan)
  | tree (plan : NodePlan)

/-- The document that a value describes. A record whose field `components` is a list is an
application. -/
def Document.ofValue? (v : Value) : Option Document :=
  match (v.field? "components").bind Value.items? with
  | some _ => (AppPlan.ofValue? v).map .app
  | none => (NodePlan.ofValue? v).map .tree

/-- The document of a JSON text. -/
def Document.ofJson? (text : String) : Option Document :=
  (Value.ofJson? text).bind fun v => Document.ofValue? v.canonical

/-- Why an invocation fails. -/
inductive Failure where
  | config (e : ConfigError)
  | unreadable (file : String)
  | description (file : String)
  | payload
  | screen (e : ScreenError)
deriving DecidableEq, Repr

/-- The message of a failure. -/
def Failure.message : Failure → String
  | .config e => s!"Error: {e.message}"
  | .unreadable file => s!"Error: Failed to read {file}"
  | .description file => s!"Error: {file} holds no valid description"
  | .payload => "Error: Payload is not valid JSON"
  | .screen e => s!"Error: {e.message}"

/-- What an invocation that succeeds gives. -/
structure Report where
  markup : String
  history : List Event := []

/-- The lines of a report: the markup, and then one line for each event. -/
def Report.lines (r : Report) : List String :=
  r.markup :: r.history.map fun e => e.toValue.toJson

/-- The configuration of an invocation. Its filter of logging has to be understood. -/
def Invocation.config (i : Invocation) (files : String → Option String) :
    Except Failure Config :=
  let loaded : Except ConfigError Config := match i.config? with
    | none => .ok {}
    | some file => Config.ofFile file (files file)
  match loaded with
  | .error e => .error (.config e)
  | .ok c =>
    let c := if i.verbose then { c with logging := { c.logging with level := "debug" } } else c
    if c.logging.isUnderstood then .ok c else .error (.config (.logging c.logging.filter))

/-- The screen with a document mounted and resolved. -/
def open? (files : String → Option String) (config : Config) (file : String) :
    Except Failure Screen :=
  match files file with
  | none => .error (.unreadable file)
  | some text =>
    match Document.ofJson? text with
    | none => .error (.description file)
    | some (.app plan) =>
      match (Screen.new config).loadApp plan with
      | (.ok _, screen) => .ok screen
      | (.error e, _) => .error (.screen e)
    | some (.tree plan) =>
      match (Screen.new config).load plan with
      | (.ok _, screen) => .ok screen
      | (.error e, _) => .error (.screen e)

/-- The payload that a text gives; none gives null. -/
def payloadOf (raw? : Option String) : Except Failure Value :=
  match raw? with
  | none => .ok .null
  | some raw =>
    match Value.ofJson? raw with
    | some v => .ok v.canonical
    | none => .error .payload

/-- Dispatches an event several times; the first time it fails is the last. -/
def dispatchTimes (node event : String) (payload : Value) : Nat → Screen → Except Failure Screen
  | 0, s => .ok s
  | n + 1, s =>
    match s.dispatch node event payload with
    | (.ok _, s) => dispatchTimes node event payload n s
    | (.error e, _) => .error (.screen e)

/-- What an invocation gives on files given by their contents. -/
def Invocation.run (i : Invocation) (files : String → Option String) : Except Failure Report := do
  let config ← i.config files
  match i.action with
  | .render file =>
    let screen ← open? files config file
    return { markup := screen.markup.1 }
  | .dispatch file node event payload? times history =>
    let screen ← open? files config file
    let payload ← payloadOf payload?
    let screen ← dispatchTimes node event payload times screen
    return { markup := screen.markup.1
             history := if history then screen.engine.events.history else [] }

/-- The files that an invocation reads. -/
def Invocation.files (i : Invocation) : List String :=
  i.config?.toList ++
    [match i.action with
      | .render file => file
      | .dispatch file .. => file]

end WidgetFlow.Command
