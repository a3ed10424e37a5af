import WidgetFlow.Proofs.Engine.Operation
import WidgetFlow.Screen.Replace
import WidgetFlow.Screen.Interaction

/-!
# What the operations of a screen do

`ScreenOp` lists the operations of a screen, and `Screen.perform` performs one of them, whatever it
answers. The lemmas say what becomes of the engine of a screen: an operation only does to it what
can be done from outside as well.

## Main results

* `dispatch_reacts`, `invoke_reacts`: handler code reaches the engine and marks nodes as stale.
* `materializeAt_runs`, `reconcile_runs`, `removeNode_runs`: what mounting, replacing and removing
  do to the engine is a run of the engine.
* `render_eq`: rendering changes only what is remembered.
-/

namespace WidgetFlow

/-- An operation on a screen. -/
inductive ScreenOp where
  | mount (plan : NodePlan)
  | mountApp (app : AppPlan)
  | replaceTree (plan : NodePlan)
  | replaceApp (app : AppPlan)
  | resolve
  | render
  | renderId (id : String)
  | refresh (ids : List String)
  | dispatch (id event : String) (payload : Value)
  | invoke (id method : String) (args : Value)
  | removeNode (id : String)
  | unmount

namespace Screen

open Engine (Runs Flows)

/-- The screen after an operation, whatever the operation answers. -/
def perform (s : Screen) : ScreenOp → Screen
  | .mount plan => (s.mount plan).2
  | .mountApp app => (s.mountApp app).2
  | .replaceTree plan => (s.replaceTree plan).2
  | .replaceApp app => (s.replaceApp app).2
  | .resolve => s.resolve.2
  | .render => s.render.2
  | .renderId id => (s.renderId id).2
  | .refresh ids => s.refresh ids
  | .dispatch id event payload => (s.dispatch id event payload).2
  | .invoke id method args => (s.invoke id method args).2
  | .removeNode id => (s.removeNode id).2
  | .unmount => s.unmount

variable {s s' s'' : Screen}

/-! ### Events and methods -/

/-- Between two screens values went through the engine and nodes were marked as stale. -/
structure Reacts (s s' : Screen) : Prop where
  flows : s.engine.Flows s'.engine
  rest : s' = { s with engine := s'.engine, memo := { s.memo with stale := s'.memo.stale } }

/-- Nothing went on. -/
theorem Reacts.refl (s : Screen) : s.Reacts s := ⟨.refl _, rfl⟩

/-- What goes on goes on step by step. -/
theorem Reacts.trans (h : s.Reacts s') (h' : s'.Reacts s'') : s.Reacts s'' := by
  refine ⟨h.flows.trans h'.flows, ?_⟩
  rw [h'.rest, h.rest]

/-- Values go through the engine. -/
theorem Reacts.of_flows {e : Engine} (h : s.engine.Flows e) : s.Reacts { s with engine := e } :=
  ⟨h, rfl⟩

/-- Nodes are marked as stale. -/
theorem refresh_reacts (s : Screen) (ids : List String) : s.Reacts (s.refresh ids) := ⟨.refl _, rfl⟩

/-- Handler code of a node acts through the engine. -/
theorem runCode_reacts (s : Screen) (id name : String) (code : NodeCode) (event : Value) :
    s.Reacts (s.runCode id name code event).2 := by
  rw [runCode]
  cases code.handler? with
  | none => exact s.refresh_reacts _
  | some handler =>
      dsimp only
      have hrun := Engine.runHandler_flows handler
        ⟨event, some id, s.engine.config.script.maxSteps⟩ s.engine
      generalize handler.run ⟨event, some id, s.engine.config.script.maxSteps⟩ s.engine = out
        at hrun ⊢
      obtain ⟨result, engine⟩ := out
      cases result with
      | ok outcome => exact (Reacts.of_flows hrun).trans (refresh_reacts _ _)
      | error e => exact (Reacts.of_flows (hrun.record _)).trans (refresh_reacts _ _)

/-- An event goes out through the engine. -/
theorem emitEvent_reacts (s : Screen) (id event : String) (payload : Value) (done : Dispatched) :
    s.Reacts (s.emitEvent id event payload done).2 := by
  rw [emitEvent]
  dsimp only
  split
  · exact .of_flows (Engine.emit_flows s.engine _ payload)
  · exact .refl s

/-- A dispatched event acts through the engine. -/
theorem dispatch_reacts (s : Screen) (id event : String) (payload : Value) :
    s.Reacts (s.dispatch id event payload).2 := by
  rw [dispatch]
  cases s.readyNode id with
  | error e => exact .refl s
  | ok node =>
      dsimp only
      have hrecord : s.Reacts (s.record { kind := .userAction, component := id
                                          payload := .obj [("event", .str event),
                                            ("payload", payload)] }) :=
        .of_flows ((Flows.refl s.engine).record _)
      cases (handlerNames event).findSome? (Dict.get? node.events) with
      | none => exact hrecord.trans (emitEvent_reacts _ id event payload _)
      | some code =>
          exact (hrecord.trans (runCode_reacts _ id event code payload)).trans
            (emitEvent_reacts _ id event payload _)

/-- A method acts through the engine. -/
theorem invoke_reacts (s : Screen) (id method : String) (args : Value) :
    s.Reacts (s.invoke id method args).2 := by
  rw [invoke]
  cases s.readyNode id with
  | error e => exact .refl s
  | ok node =>
      dsimp only
      cases Dict.get? node.methods method with
      | none => exact .refl s
      | some code =>
          exact (Reacts.of_flows ((Flows.refl s.engine).record _)).trans
            (runCode_reacts _ id method code args)

/-! ### Mounting and replacing -/

/-- Making an instance neither registers nor connects anything. -/
theorem create_rearranges (e : Engine) (node : Node) (d : Definition) :
    e.Rearranges (create e node d).2 := by
  have hcreate : e.Rearranges (e.createInstance d.kind node.id node.declared).2 :=
    .of_perform e (.createInstance d.kind node.id node.declared) ⟨rfl, rfl⟩
  rw [create]
  generalize e.createInstance d.kind node.id node.declared = out at hcreate ⊢
  obtain ⟨made, e'⟩ := out
  cases made with
  | none => exact hcreate
  | some id =>
      refine (hcreate.trans (.foldl (fun e style => ?_) node.styles e')).trans
        (.foldl (fun e b => ?_) node.behaviors _)
      · exact .of_perform e (.setStyle node.id style.1 style.2) ⟨rfl, rfl⟩
      · exact .of_perform e (.call (.applyBehavior node.id b.behavior (.ofValue b.options)))
          ⟨rfl, rfl⟩

/-- Making the instance of one node neither registers nor connects anything. -/
theorem materializeAt_rearranges (arena : Arena) (e : Engine) (index : Nat) :
    e.Rearranges (materializeAt arena e index) := by
  rw [materializeAt]
  split
  · exact .refl e
  · next node _ =>
      split
      · exact .refl e
      · next d _ =>
          have hthere : e.Rearranges
              (if e.instances.contains node.id then (true, e) else create e node d).2 := by
            split
            · exact .refl e
            · exact create_rearranges e node d
          generalize (if e.instances.contains node.id then (true, e) else create e node d) = out
            at hthere ⊢
          obtain ⟨there, e'⟩ := out
          cases there with
          | false => exact hthere
          | true => exact hthere.perform (.updateInstance node.id _) ⟨rfl, rfl⟩

/-- Removing instances in turn neither registers nor connects anything. -/
theorem removeInstances_rearranges (ids : List String) (e : Engine) :
    e.Rearranges (ids.foldl (fun e id => (e.removeInstance id).2) e) :=
  .foldl (fun e id => .of_perform e (.removeInstance id) ⟨rfl, rfl⟩) ids e

/-- Bringing a node in line with a plan neither registers nor connects anything. -/
theorem reconcileNode_rearranges (planned : Dict (Kind × Dict Value)) (e : Engine) (node : Node) :
    e.Rearranges (reconcileNode planned e node) := by
  rw [reconcileNode]
  split
  · next kind properties _ =>
      split
      · refine .foldl (fun e entry => ?_) properties e
        dsimp only
        split
        · exact .refl e
        · exact .of_perform e (.setProperty node.id entry.1 entry.2) ⟨rfl, rfl⟩
      · exact .of_perform e (.removeInstance node.id) ⟨rfl, rfl⟩
  · exact .of_perform e (.removeInstance node.id) ⟨rfl, rfl⟩

/-- Bringing all nodes in line with plans neither registers nor connects anything. -/
theorem reconcile_rearranges (s : Screen) (plans : List NodePlan) :
    s.engine.Rearranges (s.reconcile plans).engine :=
  .foldl (reconcileNode_rearranges _) _ _

/-- Removing a node neither registers nor connects anything. -/
theorem removeNode_rearranges (s : Screen) (id : String) :
    s.engine.Rearranges (s.removeNode id).2.engine := by
  rw [removeNode]
  split
  · exact .refl _
  · next index _ =>
      dsimp only
      have hremoved : s.engine.Rearranges (((s.arena.removeSubtree index).1.map (·.id)).foldl
          (fun e id => (e.removeInstance id).2) s.engine) := removeInstances_rearranges _ _
      split
      · next parentId parent _ =>
          exact hremoved.perform (.updateInstance parentId
            { children := some ((s.arena.removeSubtree index).2.childIds parent) }) ⟨rfl, rfl⟩
      · exact hremoved

section Runs

variable {free : Bool}

/-- Making the instance of one node is a run of the engine. -/
theorem materializeAt_runs (arena : Arena) (e : Engine) (index : Nat) :
    e.Runs free (materializeAt arena e index) :=
  (materializeAt_rearranges arena e index).runs

/-- Making a connection that a plan asks for is a run of the engine. -/
theorem wire_runs (e : Engine) (w : Wire) : e.Runs free (wire e w) := by
  rw [wire]
  split
  · exact .refl e
  · exact .of_perform e (.connect _ _ _) nofun

/-- Making the automatic connections is a run of the engine. -/
theorem connectAutomatically_runs (s : Screen) :
    s.engine.Runs free s.connectAutomatically.engine := by
  rw [connectAutomatically]
  split
  · exact .of_perform s.engine (.autoConnect _) nofun
  · exact .refl _

/-- Looking a node up is a run of the engine. It registers a definition only if the resolver gives
one that is not yet known. -/
theorem settle_runs (s : Screen) (index : Nat) (result : Except ResolveError Definition)
    (hfree : ∀ d, result = .ok d → s.engine.types.contains d.kind = false → free = true) :
    s.engine.Runs free (s.settle index result).engine := by
  cases result with
  | error e => exact .refl _
  | ok d =>
      change s.engine.Runs free (if s.engine.types.contains d.kind then s.engine
        else s.engine.registerType d)
      split
      · exact .refl _
      · next hnew =>
          exact .of_perform s.engine (.registerType d) fun _ =>
            hfree d rfl (Bool.eq_false_iff.mpr hnew)

/-- Removing instances in turn is a run of the engine. -/
theorem removeInstances_runs (ids : List String) (e : Engine) :
    e.Runs free (ids.foldl (fun e id => (e.removeInstance id).2) e) :=
  (removeInstances_rearranges ids e).runs

/-- Bringing all nodes in line with plans is a run of the engine. -/
theorem reconcile_runs (s : Screen) (plans : List NodePlan) :
    s.engine.Runs free (s.reconcile plans).engine :=
  (reconcile_rearranges s plans).runs

/-- Removing a node is a run of the engine. -/
theorem removeNode_runs (s : Screen) (id : String) :
    s.engine.Runs free (s.removeNode id).2.engine :=
  (removeNode_rearranges s id).runs

/-- Mounting leaves the engine alone. -/
theorem engine_mount (s : Screen) (plan : NodePlan) : (s.mount plan).2.engine = s.engine := by
  rw [mount]
  dsimp only
  split <;> rfl

/-- Mounting an application leaves the engine alone. -/
theorem engine_mountApp (s : Screen) (app : AppPlan) : (s.mountApp app).2.engine = s.engine := by
  rw [mountApp]
  dsimp only
  split <;> rfl

end Runs

/-! ### Rendering -/

/-- The outputs of the roots, put together as the layout says. -/
def arranged (s : Screen) (outputs : List Output) : Output :=
  match s.layout? with
  | none => joinOutputs outputs
  | some layout =>
    layout.arrange ((s.arena.roots.map fun index =>
      (s.arena.get? index).bind (·.region?)).zip outputs)

/-- Rendering renders the roots in turn, and changes only what is remembered. -/
theorem render_eq (s : Screen) :
    s.render = (s.arranged ((s.arena.roots.mapM s.renderAt).run s.memo).1,
      { s with memo := ((s.arena.roots.mapM s.renderAt).run s.memo).2 }) := by
  rw [render, rendering, arranged]
  dsimp only
  cases s.layout? with
  | none => rfl
  | some layout => rfl

/-- Rendering one node changes only what is remembered. -/
theorem renderId_rest (s : Screen) (id : String) :
    (s.renderId id).2 = { s with memo := (s.renderId id).2.memo } := by
  rw [renderId]
  cases s.arena.indexOf? id with
  | none => rfl
  | some index => rfl

end Screen

end WidgetFlow
