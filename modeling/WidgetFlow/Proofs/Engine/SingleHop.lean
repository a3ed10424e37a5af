import WidgetFlow.Proofs.Behavior.Delivery
import WidgetFlow.Proofs.Engine.Trail
import WidgetFlow.Proofs.Flow.Propagation

/-!
# An emission is a single hop

An emission delivers over the connections of its point and over no others, whatever graph they form:
connections may run side by side, lead back to the point where they start, or have lost their
targets. What is delivered is settled before any behavior runs, so that it does not depend on the
behaviors.

A target does not pass a value on. Only a behavior can do so that has an input at the target
(`Engine.Deaf` says that there is none), and without one the emission changes nothing but what it
delivers: no connection that starts at a target is carried over, no hook runs, and what is recorded
are the deliveries.

## Main results

* `settle_of_deaf`: settling deliveries where no behavior listens only records them.
* `emit_delivers`: both for every engine and every live component.
-/

namespace WidgetFlow.Engine

variable {e : Engine} {source target : Endpoint} {v : Value} {ds : List Delivery}

/-! ### Where no behavior listens -/

/-- No behavior applied to the component of a point has an input there. -/
def Deaf (e : Engine) (target : Endpoint) : Prop :=
  ∀ a ∈ e.behaviors.attached target.component, ∀ b, e.behaviors.get? a.behavior = some b →
    b.hasInput target.point = false

/-- No application has a hook for a point where no behavior listens. -/
theorem Deaf.hears_eq_false (h : e.Deaf target) {a : Applied} (ha : a ∈ e.behaviors.applied) :
    e.behaviors.hears target a = false := by
  rw [BehaviorSystem.hears, BehaviorSystem.receiver?]
  split
  · next hcomponent =>
      have hattached : a ∈ e.behaviors.attached target.component :=
        List.mem_filter.mpr ⟨ha, decide_eq_true hcomponent⟩
      cases hb : e.behaviors.get? a.behavior with
      | none => rfl
      | some b => simp [Option.filter, h a hattached b hb]
  · rfl

/-- Where no behavior listens a value runs none. -/
theorem runBehaviorsBy_of_deaf (emit : Engine → Endpoint → Value → Engine) (h : e.Deaf target)
    (v : Value) : runBehaviorsBy emit e target v = e := by
  have hnone : e.behaviors.applied.filter (e.behaviors.hears target) = [] :=
    List.filter_eq_nil_iff.mpr fun a ha => by rw [h.hears_eq_false ha]; exact Bool.false_ne_true
  have hsame : e.behaviors.applied.map
      (fun a => (e.behaviors.answer target v e.instances a).1) = e.behaviors.applied :=
    (List.map_congr_left fun a ha =>
      BehaviorSystem.answer_of_hears_eq_false (h.hears_eq_false ha)).trans (List.map_id _)
  rw [runBehaviorsBy, BehaviorSystem.deliver_eq, hnone, hsame]
  rfl

/-- The events that record a delivery: the value was sent, and what it became has arrived. -/
def deliveryEvents (source : Endpoint) (v : Value) (d : Delivery) : List Event :=
  [{ kind := .connectionDataSent, component := source.component
     connection? := some d.connectionId, payload := pointPayload source.point v },
    .arrival (some d.connectionId) d.target d.value]

/-- Where no behavior listens, settling deliveries records them and does nothing else. -/
theorem settle_of_deaf (emit : Engine → Endpoint → Value → Engine)
    (h : ∀ d ∈ ds, e.Deaf d.target) :
    ds.foldl (settleBy emit source v) e =
      e.relog (e.events.recordAll (ds.flatMap (deliveryEvents source v))) := by
  induction ds generalizing e with
  | nil => rfl
  | cons d rest ih =>
      have hdeaf : (e.noted source v d).Deaf d.target := h d List.mem_cons_self
      have hfirst : settleBy emit source v e d = e.noted source v d :=
        runBehaviorsBy_of_deaf emit hdeaf d.value
      have hrest : ∀ d' ∈ rest, (e.noted source v d).Deaf d'.target :=
        fun d' hd' => h d' (List.mem_cons_of_mem d hd')
      rw [List.foldl_cons, hfirst, ih hrest, List.flatMap_cons, EventLog.recordAll_append]
      rfl

/-! ### Emissions -/

/-- An emission from a live component, while there is room, gives what it delivers. -/
theorem emit_fst (hdepth : e.emitDepth < e.config.runtime.maxEmitDepth)
    (hlive : e.instances.contains source.component = true) :
    (e.emit source v).1 = .ok (e.entered source v).1 := by
  rw [emit_eq, emitBy, if_neg (not_le.mpr hdepth), if_pos hlive]

/-- Where no behavior listens, it leaves what its connections carried, and the record of it. -/
theorem emit_snd_of_deaf (hdepth : e.emitDepth < e.config.runtime.maxEmitDepth)
    (hlive : e.instances.contains source.component = true)
    (hdeaf : ∀ d ∈ (e.entered source v).1, e.Deaf d.target) :
    (e.emit source v).2 =
      { (e.entered source v).2 with
        events := e.events.recordAll ((e.entered source v).1.flatMap (deliveryEvents source v))
        emitDepth := e.emitDepth } := by
  have hdeaf' : ∀ d ∈ (e.entered source v).1, (e.entered source v).2.Deaf d.target := hdeaf
  rw [emit_eq, emitBy, if_neg (not_le.mpr hdepth), if_pos hlive,
    settle_of_deaf emitSilently hdeaf']
  rfl

/-- **An emission delivers exactly its edges.** In every engine with room for an emission, an
emission at a point of a live component gives one delivery for each connection that starts at this
point and whose target is there, in the order of the connections; the value is what the connection
makes of the one that is emitted.

If no behavior listens where something is delivered, then each of these points holds the value that
was delivered there last, and all that is different otherwise are the revisions of the targets, the
lines that the connections printed, and the record of the deliveries. -/
theorem emit_delivers (e : Engine) (source : Endpoint) (v : Value)
    (hdepth : e.emitDepth < e.config.runtime.maxEmitDepth)
    (hlive : e.instances.contains source.component = true) :
    let edges := e.graph.all.filter fun c =>
      decide (c.source = source) && e.instances.contains c.target.component
    let deliveries := edges.map fun c => Delivery.mk c.id c.target (c.carry v).1
    (e.emit source v).1 = .ok deliveries ∧
      ((∀ d ∈ deliveries, e.Deaf d.target) →
        e.instances.Receives deliveries (e.emit source v).2.instances ∧
          (e.emit source v).2 = { e with
            instances := (e.emit source v).2.instances
            console := e.console ++ edges.flatMap fun c => (c.carry v).2
            events := e.events.recordAll (deliveries.flatMap (deliveryEvents source v)) }) := by
  intro edges deliveries
  have hpropagate := Graph.propagate_eq_carrying e.graph source v e.instances
  have hentered : (e.entered source v).1 = deliveries := congrArg Prod.fst hpropagate
  refine ⟨hentered ▸ emit_fst hdepth hlive, fun hdeaf => ?_⟩
  have hemit := emit_snd_of_deaf hdepth hlive (hentered ▸ hdeaf)
  rw [entered, hpropagate] at hemit
  have hinstances : (e.emit source v).2.instances = e.instances.receiveAll deliveries :=
    congrArg Engine.instances hemit
  rw [hinstances]
  exact ⟨Store.receives_receiveAll e.instances deliveries, hemit⟩

/-- An engine in which two connections lead from a button to one text, the second with a constant of
its own, a third one to a component that is not there, and a fourth from the text to another. -/
def forked : Engine :=
  { Engine.new {} with
    instances := { instances :=
      [("b", { id := "b", kind := .button, properties := [] }),
        ("t", { id := "t", kind := .text, properties := [] }),
        ("u", { id := "u", kind := .text, properties := [] })] }
    graph := {
      connections :=
        [(0, ⟨"c0", ⟨"b", "click"⟩, ⟨"t", "text"⟩, none⟩),
          (1, ⟨"c1", ⟨"b", "click"⟩, ⟨"gone", "text"⟩, none⟩),
          (2, ⟨"c2", ⟨"b", "click"⟩, ⟨"t", "text"⟩, some (.constant (.str "done"))⟩),
          (3, ⟨"c3", ⟨"t", "text"⟩, ⟨"u", "text"⟩, none⟩)]
      index := [("c0", 0), ("c1", 1), ("c2", 2), ("c3", 3)]
      next := 4 } }

/-- The text holds what came last, and nothing goes on from there. -/
theorem emit_delivers_forked :
    let after := (forked.emit ⟨"b", "click"⟩ (.str "on")).2
    (forked.emitDepth < forked.config.runtime.maxEmitDepth ∧
      forked.instances.contains "b" = true ∧ forked.Deaf ⟨"t", "text"⟩) ∧
    (forked.emit ⟨"b", "click"⟩ (.str "on")).1 =
      .ok [⟨"c0", ⟨"t", "text"⟩, .str "on"⟩, ⟨"c2", ⟨"t", "text"⟩, .str "done"⟩] ∧
    after.instances.stateValue "t" "text" = some (.str "done") ∧
    after.instances.stateValue "u" "text" = none := by
  have hdeaf : ∀ target, forked.Deaf target := fun _ _ ha => absurd ha List.not_mem_nil
  have hdepth : forked.emitDepth < forked.config.runtime.maxEmitDepth := by decide
  have hlive : forked.instances.contains "b" = true := by decide
  obtain ⟨hfirst, hrest⟩ := emit_delivers forked ⟨"b", "click"⟩ (.str "on") hdepth hlive
  obtain ⟨hreceives, -⟩ := hrest fun d _ => hdeaf d.target
  exact ⟨⟨hdepth, hlive, hdeaf _⟩, hfirst, hreceives.state ⟨"t", "text"⟩ (by decide),
    hreceives.state ⟨"u", "text"⟩ (by decide)⟩

end WidgetFlow.Engine
