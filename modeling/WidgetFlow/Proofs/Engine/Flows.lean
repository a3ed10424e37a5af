import Mathlib.Data.List.Basic
import WidgetFlow.Proofs.Widget.Store
import WidgetFlow.Proofs.Flow.Graph
import WidgetFlow.Proofs.Script.Host
import WidgetFlow.Engine.Host

/-!
# What flows through an engine

`Engine.Flows e e'` says once what values that travel through an engine can do to it: record
events, print lines, write to instances without moving them, run hooks of applied behaviors on
their private states, and nest a flow one level deeper. Emissions, inputs and effects are flows
(`emit_flows`, `sendInput_flows`, `applyEffects_flows`), at whatever depth and over whatever
connections, and so is everything that handler code does (`runHandler_flows`). Every invariant of
them is read off the relation, by one induction over it.

## Main results

* `emitWithin_flows`: an emission is a flow, however many emissions nest in it.
* `Flows.emitDepth`: a flow leaves the emission depth as it was.
* `Flows.graph`, `Flows.types`, `Flows.labels`: a flow connects nothing, registers nothing, and
  applies and removes no behavior.
* `Flows.writes`: a flow only writes to the instances.
-/

namespace WidgetFlow

/-! ### Writes of effects and of connections -/

/-- An effect on a store is a write. -/
theorem Effect.apply_writes (owner : String) (s : Store) (effect : Effect) :
    s.Writes (Effect.apply owner s effect) := by
  cases effect with
  | setProperty key v => exact .of_setProperty
  | setStyle property v => exact .of_present
  | addClass name => exact .of_present
  | removeClass name => exact .of_present
  | setHidden hidden => exact .of_present
  | emit point v => exact .refl s

/-- Effects on a store are writes. -/
theorem applyEffects_writes (owner : String) (effects : List Effect) (s : Store) :
    s.Writes (applyEffects owner effects s).2 :=
  List.foldlRecOn effects _ (.refl s) fun _ h effect _ =>
    h.trans (effect.apply_writes owner _)

/-- What connections carry arrives by writes. -/
theorem Graph.propagate_writes (g : Graph) (source : Endpoint) (v : Value) (s : Store) :
    s.Writes (g.propagate source v s).2.1 := by
  rw [propagate_eq]
  refine List.foldlRecOn (motive := fun r : List Delivery × Store × List String => s.Writes r.2.1)
    _ _ (.refl s) fun r h c _ => ?_
  rw [carryOver]
  split
  · exact h.trans .of_setStateValue
  · exact h

/-! ### Hooks -/

/-- What names an application and says what it applies to: everything but its private state. -/
def Applied.label (a : Applied) : String × String × String := (a.id, a.behavior, a.component)

namespace BehaviorSystem

variable (b : BehaviorSystem) (component point : String) (v : Value) (s : Store)

/-- Running hooks changes nothing of the applied behaviors but their private states. -/
theorem deliver_labels :
    (b.deliver component point v s).2.applied.map Applied.label = b.applied.map Applied.label := by
  rw [deliver]
  simp only [List.map_map]
  refine List.map_congr_left fun a _ => ?_
  simp only [Function.comp_apply]
  split <;> rfl

end BehaviorSystem

namespace Engine

/-! ### Flows -/

/-- The second engine comes from the first by what values do that travel through it. -/
inductive Flows : Engine → Engine → Prop
  | refl (e : Engine) : Flows e e
  | record {e e' : Engine} (h : Flows e e') (event : Event) : Flows e (e'.record event)
  | print {e e' : Engine} (h : Flows e e') (lines : List String) :
      Flows e { e' with console := e'.console ++ lines }
  | write {e e' : Engine} {s : Store} (h : Flows e e') (hw : e'.instances.Writes s) :
      Flows e { e' with instances := s }
  | hooks {e e' : Engine} (h : Flows e e') (component point : String) (v : Value) :
      Flows e { e' with behaviors := (e'.behaviors.deliver component point v e'.instances).2 }
  | nest {e e' e'' : Engine} (h : Flows e e')
      (hn : Flows { e' with emitDepth := e'.emitDepth + 1 } e'') :
      Flows e { e'' with emitDepth := e''.emitDepth - 1 }

variable {e e' e'' : Engine}

/-- A flow after a flow is a flow. -/
theorem Flows.trans (h : Flows e e') (h' : Flows e' e'') : Flows e e'' := by
  induction h' with
  | refl => exact h
  | record _ event ih => exact (ih h).record event
  | print _ lines ih => exact (ih h).print lines
  | write _ hw ih => exact (ih h).write hw
  | hooks _ component point v ih => exact (ih h).hooks component point v
  | nest _ hn ih _ => exact (ih h).nest hn

/-- Flows for the items of a list in turn are a flow. -/
theorem Flows.foldl {α : Type} {f : Engine → α → Engine} (hf : ∀ e a, Flows e (f e a))
    (items : List α) (e : Engine) : Flows e (items.foldl f e) :=
  List.foldlRecOn items f (.refl e) fun _ h a _ => h.trans (hf _ a)

section Steps

variable {emit : Engine → Endpoint → Value → Engine}
  (hemit : ∀ e source v, Flows e (emit e source v))

include hemit

/-- Applying what a hook asks for is a flow if the emissions are. -/
theorem applyOutcomeBy_flows (e : Engine) (o : HookOutcome) :
    Flows e (applyOutcomeBy emit e o) :=
  Flows.trans ((Flows.refl e).write (applyEffects_writes o.component o.effects e.instances))
    (.foldl (fun e (m : String × Value) => hemit e ⟨o.component, m.1⟩ m.2) _ _)

/-- Running the behaviors that listen at a point is a flow if the emissions are. -/
theorem runBehaviorsBy_flows (e : Engine) (target : Endpoint) (v : Value) :
    Flows e (runBehaviorsBy emit e target v) :=
  Flows.trans ((Flows.refl e).hooks target.component target.point v)
    (.foldl (applyOutcomeBy_flows hemit) _ _)

/-- Settling a delivery is a flow if the emissions are. -/
theorem settleBy_flows (source : Endpoint) (v : Value) (e : Engine) (d : Delivery) :
    Flows e (settleBy emit source v e d) :=
  Flows.trans (((Flows.refl e).record _).record _) (runBehaviorsBy_flows hemit _ _ _)

end Steps

/-- The engine in which the deliveries of an emission are settled, one level deeper, with the
deliveries. -/
def entered (e : Engine) (source : Endpoint) (v : Value) : List Delivery × Engine :=
  let (deliveries, instances, lines) := e.graph.propagate source v e.instances
  (deliveries, { e with instances, console := e.console ++ lines, emitDepth := e.emitDepth + 1 })

/-- An emission is a flow, however many emissions nest in it. The induction is on the room that is
left for nested emissions. -/
theorem emitWithin_flows (room : Nat) (e : Engine) (source : Endpoint) (v : Value) :
    Flows e (emitWithin room e source v).2 := by
  induction room generalizing e source v with
  | zero => exact .refl e
  | succ room ih =>
      rw [emitWithin]
      split
      · have hstart := ((Flows.refl e).write (e.graph.propagate_writes source v e.instances)).print
          (e.graph.propagate source v e.instances).2.2
        exact hstart.nest (.foldl (settleBy_flows ih source v) _ _)
      · exact .refl e

/-- An emission is a flow. -/
theorem emit_flows (e : Engine) (source : Endpoint) (v : Value) : Flows e (e.emit source v).2 :=
  emitWithin_flows _ e source v

/-- An emission whose deliveries are dropped is a flow. -/
theorem emitSilently_flows (e : Engine) (source : Endpoint) (v : Value) :
    Flows e (e.emitSilently source v) :=
  e.emit_flows source v

/-- A value put in from outside is a flow. -/
theorem sendInput_flows (e : Engine) (target : Endpoint) (v : Value) :
    Flows e (e.sendInput target v).2 := by
  rw [sendInput]
  split
  · exact .refl e
  · next instances h =>
      have hw : e.instances.Writes
          (e.instances.setStateValue target.component target.point v).2 := .of_setStateValue
      rw [h] at hw
      exact (((Flows.refl e).write hw).record _).trans
        (runBehaviorsBy_flows emitSilently_flows _ _ _)

/-- Effects on a component are a flow. -/
theorem applyEffects_flows (e : Engine) (component : String) (effects : List Effect) :
    Flows e (e.applyEffects component effects) :=
  applyOutcomeBy_flows emitSilently_flows e _

/-! ### Handler code -/

/-- Each call of handler code to an engine is a flow. -/
theorem respects_flows : Script.Respects Flows where
  refl := .refl
  trans := .trans
  setProperty e _ _ _ := (Flows.refl e).write .of_setProperty
  setStyle e _ _ _ := (Flows.refl e).write .of_present
  addClass e _ _ := (Flows.refl e).write .of_present
  removeClass e _ _ := (Flows.refl e).write .of_present
  setHidden e _ _ := (Flows.refl e).write .of_present
  emit e component point v := emitSilently_flows e ⟨component, point⟩ v
  log e line := (Flows.refl e).print [line]

/-- A run of a handler on an engine is a flow, whether it succeeds or fails. -/
theorem runHandler_flows (h : Script.Handler) (call : Script.Invocation) (e : Engine) :
    Flows e (h.run call e).2 :=
  h.run_within respects_flows call e

/-! ### What a flow keeps -/

/-- A flow leaves the emission depth as it was. -/
theorem Flows.emitDepth (h : Flows e e') : e'.emitDepth = e.emitDepth := by
  induction h with
  | refl => rfl
  | record _ _ ih => exact ih
  | print _ _ ih => exact ih
  | write _ _ ih => exact ih
  | hooks _ _ _ _ ih => exact ih
  | nest _ _ ih ihn =>
      rw [← ih]
      exact Nat.sub_eq_of_eq_add ihn

/-- A flow keeps every quantity that no step of it changes. -/
theorem Flows.kept {α : Type} (q : Engine → α)
    (hrecord : ∀ (e : Engine) event, q (e.record event) = q e)
    (hprint : ∀ (e : Engine) lines, q { e with console := lines } = q e)
    (hwrite : ∀ (e : Engine) s, q { e with instances := s } = q e)
    (hhooks : ∀ (e : Engine) component point v,
      q { e with behaviors := (e.behaviors.deliver component point v e.instances).2 } = q e)
    (hdepth : ∀ (e : Engine) n, q { e with emitDepth := n } = q e) (h : Flows e e') :
    q e' = q e := by
  induction h with
  | refl => rfl
  | record _ event ih => exact (hrecord _ _).trans ih
  | print _ lines ih => exact (hprint _ _).trans ih
  | write _ _ ih => exact (hwrite _ _).trans ih
  | hooks _ component point v ih => exact (hhooks _ _ _ _).trans ih
  | nest _ _ ih ihn => exact (hdepth _ _).trans (ihn.trans ((hdepth _ _).trans ih))

/-- A flow leaves the settings as they were. -/
theorem Flows.config (h : Flows e e') : e'.config = e.config :=
  h.kept Engine.config (fun _ _ => rfl) (fun _ _ => rfl) (fun _ _ => rfl) (fun _ _ _ _ => rfl)
    fun _ _ => rfl

/-- A flow leaves the aliases as they were. -/
theorem Flows.aliases (h : Flows e e') : e'.aliases = e.aliases :=
  h.kept Engine.aliases (fun _ _ => rfl) (fun _ _ => rfl) (fun _ _ => rfl) (fun _ _ _ _ => rfl)
    fun _ _ => rfl

/-- A flow registers no type. -/
theorem Flows.types (h : Flows e e') : e'.types = e.types :=
  h.kept Engine.types (fun _ _ => rfl) (fun _ _ => rfl) (fun _ _ => rfl) (fun _ _ _ _ => rfl)
    fun _ _ => rfl

/-- A flow makes no connection and removes none. -/
theorem Flows.graph (h : Flows e e') : e'.graph = e.graph :=
  h.kept Engine.graph (fun _ _ => rfl) (fun _ _ => rfl) (fun _ _ => rfl) (fun _ _ _ _ => rfl)
    fun _ _ => rfl

/-- A flow registers no behavior. -/
theorem Flows.behaviors (h : Flows e e') : e'.behaviors.behaviors = e.behaviors.behaviors :=
  h.kept (·.behaviors.behaviors) (fun _ _ => rfl) (fun _ _ => rfl) (fun _ _ => rfl)
    (fun _ _ _ _ => rfl) fun _ _ => rfl

/-- A flow uses up no number of an application. -/
theorem Flows.next (h : Flows e e') : e'.behaviors.next = e.behaviors.next :=
  h.kept (·.behaviors.next) (fun _ _ => rfl) (fun _ _ => rfl) (fun _ _ => rfl)
    (fun _ _ _ _ => rfl) fun _ _ => rfl

/-- A flow applies and removes no behavior. -/
theorem Flows.labels (h : Flows e e') :
    e'.behaviors.applied.map Applied.label = e.behaviors.applied.map Applied.label :=
  h.kept (·.behaviors.applied.map Applied.label) (fun _ _ => rfl) (fun _ _ => rfl)
    (fun _ _ => rfl) (fun e c p v => e.behaviors.deliver_labels c p v e.instances) fun _ _ => rfl

/-- A flow only writes to the instances. -/
theorem Flows.writes (h : Flows e e') : e.instances.Writes e'.instances := by
  induction h with
  | refl => exact .refl _
  | record _ _ ih => exact ih
  | print _ _ ih => exact ih
  | write _ hw ih => exact ih.trans hw
  | hooks _ _ _ _ ih => exact ih
  | nest _ _ ih ihn => exact ih.trans ihn

/-- After a flow a behavior is applied to a component only if it was before. -/
theorem Flows.exists_applied {a : Applied} (h : Flows e e') (ha : a ∈ e'.behaviors.applied) :
    ∃ a' ∈ e.behaviors.applied, a'.label = a.label := by
  have hl : a.label ∈ e.behaviors.applied.map Applied.label := by
    rw [← h.labels]
    exact List.mem_map_of_mem ha
  exact List.mem_map.mp hl

end Engine

end WidgetFlow
