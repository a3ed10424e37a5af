import WidgetFlow.Config.Basic
import WidgetFlow.Widget.Definition
import WidgetFlow.Flow.Graph
import WidgetFlow.Flow.AutoConnect
import WidgetFlow.Flow.Event
import WidgetFlow.Behavior.System

/-!
# The engine

An engine brings together definitions, instances, connections, behaviors and the log of events,
and keeps them in step: what is removed takes its connections and applied behaviors with it, and
every change of this kind is recorded.

This module holds the state, the types and instances, and the points.
-/

namespace WidgetFlow

/-- Why an operation of the engine fails. -/
inductive EngineError where
  | unknownComponent (id : String)
  | unknownPoint (component point : String)
  | emitDepthExceeded (depth limit : Nat)
  | behavior (e : BehaviorError)
deriving DecidableEq, Repr

namespace EngineError

/-- The message of an error. -/
def message : EngineError → String
  | .unknownComponent id => s!"Unknown component: {id}"
  | .unknownPoint component point =>
    s!"Component '{component}' has no connection point '{point}'"
  | .emitDepthExceeded depth limit => s!"Emit depth {depth} exceeds maximum {limit}"
  | .behavior e => e.message

/-- Whether the error is that a component or a point is not there. -/
def isMissingTarget : EngineError → Bool
  | .unknownComponent _ => true
  | .unknownPoint _ _ => true
  | .behavior (.unknownComponent _) => true
  | _ => false

end EngineError

/-- The state of an engine. `emitDepth` counts the emissions under way, and `console` lists the
lines that handler code printed. -/
structure Engine where
  config : Config
  aliases : AliasTable
  types : Registry
  instances : Store
  graph : Graph
  behaviors : BehaviorSystem
  events : EventLog
  emitDepth : Nat
  console : List String

namespace Engine

/-- An engine with the built-in behaviors and nothing else. -/
def new (config : Config) : Engine :=
  { config
    aliases := .ofAliases config.interpreter.aliases
    types := {}
    instances := {}
    graph := {}
    behaviors := .standard
    events := .empty config.runtime.eventHistoryCapacity
    emitDepth := 0
    console := [] }

/-- Records an event. -/
def record (e : Engine) (event : Event) : Engine := { e with events := e.events.record event }

/-- The kind that a tag stands for by the configured aliases. -/
def kindOf (e : Engine) (tag : String) : Kind := e.aliases.kind tag

/-! ## Types and instances -/

/-- Registers a definition. -/
def registerType (e : Engine) (d : Definition) : Engine :=
  { e with types := e.types.register d }.record
    { kind := .componentRegistered, component := d.kind.tag }

/-- Makes an instance of a kind; gives its id, or nothing if the kind has no definition. -/
def createInstance (e : Engine) (kind : Kind) (id : String) (properties : Dict Value) :
    Option String × Engine :=
  match e.types.instantiate kind id properties e.instances with
  | none => (none, e)
  | some (id, instances) =>
    (some id, { e with instances }.record
      { kind := .instanceCreated, component := id, payload := .obj [("type", .str kind.tag)] })

/-- Updates an instance, and tells whether there was one. -/
def updateInstance (e : Engine) (id : String) (u : InstanceUpdate) : Bool × Engine :=
  match e.instances.update id u with
  | (false, _) => (false, e)
  | (true, instances) =>
    (true, { e with instances }.record { kind := .instanceUpdated, component := id })

/-- Removes an instance with its connections and the behaviors applied to it. -/
def removeInstance (e : Engine) (id : String) : Option Instance × Engine :=
  match e.instances.remove id with
  | (none, _) => (none, e)
  | (some i, instances) =>
    let doomed := e.graph.all.filter (·.touches id)
    let e := { e with instances, graph := (e.graph.removeFor id).2 }
    let e := doomed.foldl (fun e c => e.record
      { kind := .connectionRemoved, component := id, connection? := some c.id }) e
    let e := { e with behaviors := (e.behaviors.detachAll id).2 }
    (some i, e.record { kind := .instanceRemoved, component := id })

/-- Removes all instances, connections and applied behaviors. -/
def clear (e : Engine) : Engine :=
  let e := e.instances.ids.foldl (fun e id => (e.removeInstance id).2) e
  { e with graph := e.graph.clear, behaviors := e.behaviors.clearApplied }

/-! ## Points -/

/-- The points of a component: those of its definition, then those of the behaviors applied. -/
def pointsOf (e : Engine) (component : String) : List Point :=
  match e.instances.get? component with
  | none => []
  | some i =>
    ((e.types.get? i.kind).map (·.points)).getD [] ++ e.behaviors.pointsFor component

/-- The point of a component with an id. -/
def pointOf? (e : Engine) (component point : String) : Option Point :=
  match e.instances.get? component with
  | none => none
  | some i =>
    ((e.types.get? i.kind).bind (·.point? point)).orElse fun _ =>
      e.behaviors.pointFor? component point

end Engine

end WidgetFlow
