import WidgetFlow.Screen.Render

/-!
# Events and methods

An event on a node runs the handler that the plan gives for it, and goes out at the point of its
name. An event and the handler of it may be spelled `onClick` or `click`; the point is called
`click`. A method of a node is run by its name.

Handlers run on the engine. A handler that fails is recorded and changes nothing else of what
follows.
-/

namespace WidgetFlow

/-- The point that an event goes out at: without `on` and with a small first letter if a capital
letter follows `on`, and of the same name otherwise. -/
def eventPoint (event : String) : String :=
  match event.toList with
  | 'o' :: 'n' :: c :: rest =>
    if Text.isUppercase c then Text.uncapitalize (String.ofList (c :: rest)) else event
  | _ => event

/-- The names under which the handler of an event is looked for, in order. -/
def handlerNames (event : String) : List String :=
  let point := eventPoint event
  [event, if point.isEmpty then "" else "on" ++ Text.capitalize point]

/-- What a dispatched event did: whether a handler ran to its end, its result, the nodes to refresh,
the point that the event went out at, and how many values were delivered. -/
structure Dispatched where
  handled : Bool := false
  value : Value := .null
  refreshed : List String := []
  emitted? : Option String := none
  deliveries : Nat := 0
deriving BEq, Inhabited

namespace Screen

/-- The node of an id, if it is ready. -/
def readyNode (s : Screen) (id : String) : Except ScreenError Node :=
  match s.arena.find? id with
  | none => .error (.unknownNode id)
  | some node =>
    if node.status.isReady then .ok node else .error (.notReady id node.status.name)

/-- Marks the nodes among sorted ids as stale and gives them. -/
def scheduleRefresh (s : Screen) (ids : List String) : List String × Screen :=
  let there := ids.filter s.arena.containsId
  (there, s.refresh there)

/-- Runs handler code of a node under a name, and refreshes the nodes that it is said to change and
those that it changed. Gives whether it ran to its end, its result and the refreshed nodes. -/
def runCode (s : Screen) (id name : String) (code : NodeCode) (event : Value) :
    (Bool × Value × List String) × Screen :=
  let affected := code.affected.foldl (fun ids id => insertName id ids) []
  let (handled, value, ids, s) :=
    match code.handler? with
    | none => (false, Value.null, affected, s)
    | some handler =>
      match handler.run ⟨event, some id, s.engine.config.script.maxSteps⟩ s.engine with
      | (.ok outcome, engine) =>
        (true, outcome.value, outcome.touched.foldl (fun ids id => insertName id ids) affected,
          { s with engine })
      | (.error e, engine) =>
        (false, Value.null, affected,
          { s with engine }.record
            { kind := .handlerFailed, component := id
              payload := .obj [("error", .str e.message), ("handler", .str name)] })
  let (refreshed, s) := s.scheduleRefresh ids
  ((handled, value, refreshed), s)

/-- Lets an event go out at its point, if events do that and the node has such a point. -/
def emitEvent (s : Screen) (id event : String) (payload : Value) (done : Dispatched) :
    Dispatched × Screen :=
  let point := eventPoint event
  if s.engine.config.interpreter.emitEventPoints &&
      ((s.engine.pointOf? id point).map fun p => p.direction.emits).getD false then
    let (result, engine) := s.engine.emit ⟨id, point⟩ payload
    let deliveries := match result with
      | .ok deliveries => deliveries.length
      | .error _ => 0
    ({ done with emitted? := some point, deliveries }, { s with engine })
  else (done, s)

/-- Dispatches an event on a node. -/
def dispatch (s : Screen) (id event : String) (payload : Value) :
    Except ScreenError Dispatched × Screen :=
  match s.readyNode id with
  | .error e => (.error e, s)
  | .ok node =>
    let s := s.record
      { kind := .userAction, component := id
        payload := .obj [("event", .str event), ("payload", payload)] }
    let (done, s) :=
      match (handlerNames event).findSome? (Dict.get? node.events) with
      | none => (({} : Dispatched), s)
      | some code =>
        let ((handled, value, refreshed), s) := s.runCode id event code payload
        ({ handled, value, refreshed }, s)
    let (done, s) := s.emitEvent id event payload done
    (.ok done, s)

/-- Runs a method of a node and gives its result. -/
def invoke (s : Screen) (id method : String) (args : Value) : Except ScreenError Value × Screen :=
  match s.readyNode id with
  | .error e => (.error e, s)
  | .ok node =>
    match Dict.get? node.methods method with
    | none => (.error (.unknownMethod id method), s)
    | some code =>
      let s := s.record
        { kind := .methodInvoked, component := id
          payload := .obj [("args", args), ("method", .str method)] }
      let ((_, value, _), s) := s.runCode id method code args
      (.ok value, s)

end Screen

end WidgetFlow
