import WidgetFlow.Engine.Basic

/-!
# Connections, emissions and behaviors of an engine

An emission carries a value over the connections of a point and runs the behaviors that listen
where it arrives. Behaviors may emit in turn. Such emissions nest, at most to the depth that the
settings allow; one that would go deeper is dropped, and the emission that caused it goes on.

A value does not flow on by itself: it stops at the targets of the connections, and only a behavior
can send it further.
-/

namespace WidgetFlow.Engine

/-! ## Connections -/

/-- Checks that a component is there and has a point. -/
def checkPoint (e : Engine) (p : Endpoint) : Except EngineError Unit :=
  if !e.instances.contains p.component then .error (.unknownComponent p.component)
  else if (e.pointOf? p.component p.point).isNone then
    .error (.unknownPoint p.component p.point)
  else .ok ()

/-- Connects two points and gives the id of the connection. The directions of the points are not
checked. -/
def connect (e : Engine) (source target : Endpoint) (transform? : Option Transform) :
    Except EngineError String × Engine :=
  match e.checkPoint source, e.checkPoint target with
  | .error err, _ => (.error err, e)
  | .ok _, .error err => (.error err, e)
  | .ok _, .ok _ =>
    let (id, graph) := e.graph.connect source target transform?
    (.ok id, { e with graph }.record
      { kind := .connectionCreated, component := source.component, connection? := some id
        payload := .obj [("sourcePoint", .str source.point), ("targetId", .str target.component),
          ("targetPoint", .str target.point)] })

/-- Connects two points by a transform of the library; an unknown name means none. -/
def connectNamed (e : Engine) (source target : Endpoint) (name? : Option String) :
    Except EngineError String × Engine :=
  e.connect source target (name?.bind Transform.ofSpec?)

/-- Removes a connection, and tells whether there was one. -/
def disconnect (e : Engine) (id : String) : Bool × Engine :=
  match e.graph.get? id, e.graph.disconnect id with
  | some c, (true, graph) =>
    (true, { e with graph }.record
      { kind := .connectionRemoved, component := c.source.component, connection? := some id })
  | _, (removed, graph) => (removed, { e with graph })

/-! ## Emissions -/

/-- Applies effects to a component and then emits what they ask for, in order, by the given way to
emit. -/
def applyOutcomeBy (emit : Engine → Endpoint → Value → Engine) (e : Engine) (o : HookOutcome) :
    Engine :=
  let (emissions, instances) := applyEffects o.component o.effects e.instances
  emissions.foldl (fun e (point, v) => emit e ⟨o.component, point⟩ v) { e with instances }

/-- Runs the behaviors of a component that listen at a point, all of them before any of their
effects is applied. -/
def runBehaviorsBy (emit : Engine → Endpoint → Value → Engine) (e : Engine) (target : Endpoint)
    (v : Value) : Engine :=
  let (outcomes, behaviors) := e.behaviors.deliver target.component target.point v e.instances
  outcomes.foldl (applyOutcomeBy emit) { e with behaviors }

/-- A value that goes from or comes to a point, for an event. -/
def pointPayload (point : String) (v : Value) : Value := .obj [("point", .str point), ("value", v)]

/-- Records a delivery and runs the behaviors that listen at its target. -/
def settleBy (emit : Engine → Endpoint → Value → Engine) (source : Endpoint) (v : Value)
    (e : Engine) (d : Delivery) : Engine :=
  let e := e.record
    { kind := .connectionDataSent, component := source.component
      connection? := some d.connectionId, payload := pointPayload source.point v }
  let e := e.record
    { kind := .connectionDataReceived, component := d.target.component
      connection? := some d.connectionId, payload := pointPayload d.target.point d.value }
  runBehaviorsBy emit e d.target d.value

/-- Emits a value at a point, where at most `room` emissions may nest in each other, this one
counted. -/
def emitWithin : Nat → Engine → Endpoint → Value → Except EngineError (List Delivery) × Engine
  | 0, e, _, _ =>
    (.error (.emitDepthExceeded (e.emitDepth + 1) e.config.runtime.maxEmitDepth), e)
  | room + 1, e, source, v =>
    if e.instances.contains source.component then
      let (deliveries, instances, lines) := e.graph.propagate source v e.instances
      let e := { e with instances, console := e.console ++ lines, emitDepth := e.emitDepth + 1 }
      let nested (e : Engine) (source : Endpoint) (v : Value) : Engine :=
        (emitWithin room e source v).2
      let e := deliveries.foldl (settleBy nested source v) e
      (.ok deliveries, { e with emitDepth := e.emitDepth - 1 })
    else (.ok [], e)

/-- Emits a value at a point and gives what was delivered. From a component that is not there
nothing is emitted. -/
def emit (e : Engine) (source : Endpoint) (v : Value) :
    Except EngineError (List Delivery) × Engine :=
  emitWithin (e.config.runtime.maxEmitDepth - e.emitDepth) e source v

/-- Emits a value and drops what it gives. -/
def emitSilently (e : Engine) (source : Endpoint) (v : Value) : Engine := (e.emit source v).2

/-- Puts a value into a point of a component from outside, and tells whether the component was
there. -/
def sendInput (e : Engine) (target : Endpoint) (v : Value) : Bool × Engine :=
  match e.instances.setStateValue target.component target.point v with
  | (false, _) => (false, e)
  | (true, instances) =>
    let e := { e with instances }.record
      { kind := .connectionDataReceived, component := target.component
        payload := pointPayload target.point v }
    (true, runBehaviorsBy emitSilently e target v)

/-- Applies effects to a component. -/
def applyEffects (e : Engine) (component : String) (effects : List Effect) : Engine :=
  applyOutcomeBy emitSilently e ⟨component, effects⟩

/-! ## Behaviors -/

/-- Registers a behavior. -/
def registerBehavior (e : Engine) (b : Behavior) : Engine :=
  { e with behaviors := e.behaviors.register b }

/-- Applies a behavior to a component and gives the id of the application. -/
def applyBehavior (e : Engine) (component behavior : String) (options : BehaviorOptions) :
    Except EngineError String × Engine :=
  match e.behaviors.apply component behavior options e.instances with
  | .error err => (.error (.behavior err), e)
  | .ok (id, outcome, behaviors) =>
    let e := { e with behaviors }.record
      { kind := .behaviorApplied, component
        payload := .obj [("appliedId", .str id), ("behavior", .str behavior)] }
    (.ok id, applyOutcomeBy emitSilently e outcome)

/-- Removes an applied behavior. -/
def removeBehavior (e : Engine) (id : String) : Except EngineError Unit × Engine :=
  match e.behaviors.unapply id e.instances with
  | .error err => (.error (.behavior err), e)
  | .ok (outcome, behaviors) =>
    let e := { e with behaviors }.record
      { kind := .behaviorRemoved, component := outcome.component
        payload := .obj [("appliedId", .str id)] }
    (.ok (), applyOutcomeBy emitSilently e outcome)

/-! ## Automatic connections -/

/-- The connections proposed among components. -/
def proposals (e : Engine) (components : List String) : List Proposal :=
  propose e.config.autoConnect.allowNumberToText components e.pointsOf e.graph

/-- Makes the connections proposed among components, and gives the ids of the new ones. -/
def autoConnect (e : Engine) (components : List String) : List String × Engine :=
  (e.proposals components).foldl (fun (created, e) p =>
    match e.connectNamed p.source p.target p.transform? with
    | (.ok id, e) => (created ++ [id], e)
    | (.error _, e) => (created, e)) ([], e)

end WidgetFlow.Engine
