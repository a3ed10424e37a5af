import WidgetFlow.Screen.Basic

/-!
# Mounting

A tree is mounted if none of its ids is there twice; its nodes then wait for their definitions.
Resolving looks all of them up at once and makes an instance of every node that is ready, parents
first. Then the wires whose ends no longer wait become connections, and automatic connections are
made when no node waits.
-/

namespace WidgetFlow.Screen

/-! ## Trees -/

/-- The first id that repeats, or that is taken already. -/
def duplicate? (isTaken : String → Bool) : List String → List String → Option String
  | _, [] => none
  | seen, id :: rest =>
    if isTaken id || seen.contains id then some id else duplicate? isTaken (id :: seen) rest

mutual
/-- Puts the ids of a planned node at a position below a parent, and of all nodes below it, behind
those collected before; its own id comes last. A text has none. -/
def collectIds (parentId? : Option String) (position : Nat) :
    ChildPlan → List String → List String
  | .text _, ids => ids
  | .node info children, ids =>
    let id := info.idAt parentId? position
    collectEach (some id) 0 children ids ++ [id]
/-- Puts the ids of planned children, from a position on, behind those collected before. -/
def collectEach (parentId? : Option String) :
    Nat → List ChildPlan → List String → List String
  | _, [], ids => ids
  | position, plan :: rest, ids =>
    collectEach parentId? (position + 1) rest (collectIds parentId? position plan ids)
end

/-- Checks that no id repeats in trees mounted from a position on, nor is taken already. -/
def checkIds (isTaken : String → Bool) (position : Nat) (plans : List NodePlan) :
    Except ScreenError Unit :=
  match duplicate? isTaken [] (collectEach none position (plans.map NodePlan.asChild) []) with
  | some id => .error (.duplicateId id)
  | none => .ok ()

/-- Lets every node that was not looked up yet wait for its definition. -/
def queue (s : Screen) : Screen :=
  let enter (node : Node) : Node :=
    match node.status with
    | .unresolved => { node with status := .loading }
    | _ => node
  { s with arena := { s.arena with slots := s.arena.slots.map (Option.map enter) } }

/-- Mounts trees from a position on, whose ids have been checked. -/
def mountAll (s : Screen) (position : Nat) (plans : List NodePlan) : List Nat × Screen :=
  let (indices, arena) := s.arena.plantAll s.engine.kindOf position plans
  (indices, queue { s with arena })

/-- Mounts a tree behind those that are mounted, and gives the number of its root. -/
def mount (s : Screen) (plan : NodePlan) : Except ScreenError Nat × Screen :=
  let position := s.arena.roots.length
  match checkIds s.arena.containsId position [plan] with
  | .error e => (.error e, s)
  | .ok _ =>
    let (index, arena) := s.arena.plant s.engine.kindOf plan position
    (.ok index, queue { s with arena })

/-! ## Applications -/

/-- Sets the layout. A layout without regions is none. -/
def setLayout (s : Screen) (layout : Layout) : Screen :=
  { s with layout? := if layout.regions.isEmpty then none else some layout }

/-- Mounts the components of an application and notes its wires. -/
def mountApp (s : Screen) (app : AppPlan) : Except ScreenError (List Nat) × Screen :=
  let position := s.arena.roots.length
  match checkIds s.arena.containsId position app.components with
  | .error e => (.error e, s)
  | .ok _ =>
    let s := s.setLayout app.layout
    let s := { s with
      theme? := app.theme?.orElse fun _ => s.theme?
      wires := s.wires ++ app.wires
      autoConnectPending := s.autoConnectPending || s.engine.config.autoConnect.enabled }
    let (indices, s) := s.mountAll position app.components
    (.ok indices, s)

/-! ## Resolving -/

/-- The nodes that wait, with what the resolver gives for them from the definitions known now. -/
def lookups (s : Screen) : List (Nat × Except ResolveError Definition) :=
  s.arena.live.filterMap fun (index, node) =>
    match node.status with
    | .loading => some (index, s.resolver s.engine.types node.kind)
    | _ => none

/-- Gives a node its status from what was looked up. A definition of a kind that is not yet known is
registered. -/
def settle (s : Screen) (index : Nat) (result : Except ResolveError Definition) : Screen :=
  match result with
  | .ok d =>
    let engine := if s.engine.types.contains d.kind then s.engine else s.engine.registerType d
    { s with engine, arena := s.arena.modify index fun node => { node with status := .ready d } }
  | .error e =>
    { s with arena := s.arena.modify index fun node => { node with status := .error e.message } }

/-- Makes the instance of a node that has a definition, with its styles and its behaviors. A behavior
that cannot be applied is left out. Nothing is made, and the answer is no, if the kind of the
definition is not known. -/
def create (e : Engine) (node : Node) (d : Definition) : Bool × Engine :=
  match e.createInstance d.kind node.id node.declared with
  | (none, e) => (false, e)
  | (some _, e) =>
    let e := node.styles.foldl (fun e (property, v) => (View.setStyle e node.id property v).2) e
    let e := node.behaviors.foldl (fun e b =>
      (e.applyBehavior node.id b.behavior (.ofValue b.options)).2) e
    (true, e)

/-- Makes the instance of a node that is ready and has none, and tells every instance of a node that
is ready what is above and below it. -/
def materializeAt (arena : Arena) (e : Engine) (index : Nat) : Engine :=
  match arena.get? index with
  | none => e
  | some node =>
    match node.status.definition? with
    | none => e
    | some d =>
      let (there, e) := if e.instances.contains node.id then (true, e) else create e node d
      if there then
        (e.updateInstance node.id
          { parent := some (arena.parentId? index), children := some (arena.childIds index) }).2
      else e

/-- Makes the instances of all nodes, parents first. -/
def materialize (s : Screen) : Screen :=
  { s with engine := s.arena.order.foldl (materializeAt s.arena) s.engine }

/-- The transform that a name stands for: one of the library, or the name as handler code. -/
def transformFor (name : String) (maxSteps : Nat) : Option Transform :=
  match Transform.ofSpec? name with
  | some t => some t
  | none => (Transform.ofCode name maxSteps).toOption

/-- Makes the connection of a wire, unless one between the same points is there. A connection that
cannot be made is left out. -/
def wire (e : Engine) (w : Wire) : Engine :=
  let source : Endpoint := ⟨w.sourceId, w.sourcePoint⟩
  let target : Endpoint := ⟨w.targetId, w.targetPoint⟩
  if e.graph.exists? source target then e
  else
    (e.connect source target
      (w.transform?.bind fun name => transformFor name e.config.script.maxSteps)).2

/-- Whether an end of a wire still waits. -/
def isOpen (s : Screen) (w : Wire) : Bool := s.isWaiting w.sourceId || s.isWaiting w.targetId

/-- Makes the connections of all wires whose ends no longer wait, in order, and keeps the others. -/
def connectWires (s : Screen) : Screen :=
  { s with
    wires := s.wires.filter s.isOpen
    engine := (s.wires.filter fun w => !s.isOpen w).foldl wire s.engine }

/-- Makes the automatic connections, if they are to be made and no node waits. -/
def connectAutomatically (s : Screen) : Screen :=
  if s.autoConnectPending && !(s.arena.live.any fun n => n.2.status.isWaiting) then
    let ready := (s.arena.live.filter fun n => n.2.status.isReady).map (·.2.id)
    { s with autoConnectPending := false, engine := (s.engine.autoConnect ready).2 }
  else s

/-- Looks up all nodes that wait and brings the engine in step; gives how many became ready. -/
def resolve (s : Screen) : Nat × Screen :=
  let results := s.lookups
  let ready := results.countP fun r => r.2.isOk
  let s := results.foldl (fun s r => s.settle r.1 r.2) s
  (ready, s.materialize.connectWires.connectAutomatically)

/-- Mounts and resolves a tree. -/
def load (s : Screen) (plan : NodePlan) : Except ScreenError Nat × Screen :=
  match s.mount plan with
  | (.ok index, s) => (.ok index, s.resolve.2)
  | (.error e, s) => (.error e, s)

/-- Mounts and resolves an application. -/
def loadApp (s : Screen) (app : AppPlan) : Except ScreenError (List Nat) × Screen :=
  match s.mountApp app with
  | (.ok indices, s) => (.ok indices, s.resolve.2)
  | (.error e, s) => (.error e, s)

end WidgetFlow.Screen
