import WidgetFlow.Engine.Host
import WidgetFlow.Proofs.Engine.Operation

/-!
# An operation that is refused changes nothing

An operation of an engine may be refused, by an error or by an answer that says so: there is no
component of the id, no point, no definition, no behavior, no connection, or emissions nest too
deep. `EngineOp.Refused` gives the reasons in terms of the engine alone. An operation answers that
it failed exactly if there is such a reason, and then the engine is the same as before, in all its
parts: the instances with their revisions, the clock, the connections, the applied behaviors with
their states, the definitions, the history and the calls of observers.

## Main results

* `settles_perform`: every operation is refused without a change or carried out.
* `failed_iff_refused`: an operation fails exactly for the listed reasons, and changes nothing then.
-/

namespace WidgetFlow

/-! ### Reasons and answers -/

/-- Whether a call answers that it failed, or emits from a component that is not there. -/
def Call.fails (e : Engine) : Call → Bool
  | .emit source v => !(e.emit source v).1.isOk || !e.instances.contains source.component
  | .sendInput target v => !(e.sendInput target v).1
  | .applyEffects _ _ => false
  | .applyBehavior component behavior options =>
    !(e.applyBehavior component behavior options).1.isOk
  | .removeBehavior id => !(e.removeBehavior id).1.isOk

/-- Whether an operation answers that it failed. -/
def EngineOp.fails (e : Engine) : EngineOp → Bool
  | .createInstance kind id properties => (e.createInstance kind id properties).1.isNone
  | .updateInstance id u => !(e.updateInstance id u).1
  | .removeInstance id => (e.removeInstance id).1.isNone
  | .connect source target transform? => !(e.connect source target transform?).1.isOk
  | .connectNamed source target name? => !(e.connectNamed source target name?).1.isOk
  | .disconnect id => !(e.disconnect id).1
  | .call c => c.fails e
  | .setProperty id key v => !(View.setProperty e id key v).1
  | .setStyle id property v => !(View.setStyle e id property v).1
  | .addClass id name => !(View.addClass e id name).1
  | .removeClass id name => !(View.removeClass e id name).1
  | .setHidden id hidden => !(View.setHidden e id hidden).1
  | _ => false

/-- Why a call is refused: the limit of nested emissions is reached, the component, the behavior or
the application is not there, or the behavior is not for the kind of the component. -/
def Call.Refused (e : Engine) : Call → Prop
  | .emit source _ =>
    e.config.runtime.maxEmitDepth ≤ e.emitDepth ∨ e.instances.contains source.component = false
  | .sendInput target _ => e.instances.contains target.component = false
  | .applyEffects _ _ => False
  | .applyBehavior component behavior _ =>
    ∀ found, e.behaviors.get? behavior = some found →
      ∀ i, e.instances.get? component = some i → found.compatibility.allows i.kind = false
  | .removeBehavior id => e.behaviors.application? id = none

/-- Why an operation is refused: the kind, the instance, the point or the connection that it speaks
of is not there. -/
def EngineOp.Refused (e : Engine) : EngineOp → Prop
  | .createInstance kind _ _ => e.types.get? kind = none
  | .updateInstance id _ | .removeInstance id | .setProperty id _ _ | .setStyle id _ _
  | .addClass id _ | .removeClass id _ | .setHidden id _ => e.instances.contains id = false
  | .connect source target _ | .connectNamed source target _ =>
    e.pointOf? source.component source.point = none ∨
      e.pointOf? target.component target.point = none
  | .disconnect id => Dict.get? e.graph.index id = none
  | .call c => c.Refused e
  | _ => False

/-- An operation that takes one engine to another is refused for a reason, says so and changes
nothing, or there is no reason and it does not say so. -/
inductive Settles (reason : Prop) (e e' : Engine) : Bool → Prop
  | refused (h : reason) (heq : e' = e) : Settles reason e e' true
  | done (h : ¬ reason) : Settles reason e e' false

namespace Engine

variable {e : Engine} {id : String}

/-! ### Instances -/

/-- What is done to an instance is refused if the instance is not there. -/
theorem settles_of_contains {b : Bool} {e' : Engine} (hb : b = e.instances.contains id)
    (heq : e.instances.contains id = false → e' = e) :
    Settles (e.instances.contains id = false) e e' !b := by
  cases hc : e.instances.contains id with
  | false =>
      rw [hb, hc]
      exact .refused rfl (heq hc)
  | true =>
      rw [hb, hc]
      exact .done Bool.noConfusion

/-- A change of an instance is refused if the instance is not there. -/
theorem settles_mutate (change : Instance → Instance) :
    Settles (e.instances.contains id = false) e (e.writing (e.instances.mutate id change)).2
      !(e.writing (e.instances.mutate id change)).1 := by
  refine settles_of_contains Store.mutate_fst fun hc => ?_
  rw [Store.mutate_of_get?_eq_none (Store.contains_eq_false_iff.mp hc)]
  rfl

/-- Writing a property is refused if the instance is not there. -/
theorem settles_setProperty (key : String) (v : Value) :
    Settles (e.instances.contains id = false) e (View.setProperty e id key v).2
      !(View.setProperty e id key v).1 := by
  have hview : View.setProperty e id key v = e.writing (View.setProperty e.instances id key v) := rfl
  rw [hview, Store.view_setProperty]
  refine settles_of_contains rfl fun hc => ?_
  have hnone : e.instances.get? id = none := Store.contains_eq_false_iff.mp hc
  have hset : e.instances.setProperty id key v = (false, e.instances) :=
    Store.mutate_of_get?_eq_none hnone
  have hstate : e.instances.stateValue id key = none := by
    rw [Store.stateValue, hnone]
    rfl
  rw [hset, Store.removeStateValue, hstate]
  rfl

/-- An update is refused if the instance is not there. -/
theorem settles_updateInstance (u : InstanceUpdate) :
    Settles (e.instances.contains id = false) e (e.updateInstance id u).2
      !(e.updateInstance id u).1 := by
  have hfst : (e.instances.update id u).1 = e.instances.contains id := Store.mutate_fst
  refine settles_of_contains ?_ fun hc => ?_
  · rw [updateInstance, ← hfst]
    rcases e.instances.update id u with ⟨_ | _, s⟩ <;> rfl
  · have hnone : e.instances.update id u = (false, e.instances) :=
      Store.mutate_of_get?_eq_none (Store.contains_eq_false_iff.mp hc)
    rw [updateInstance, hnone]

/-- A removal is refused if the instance is not there. -/
theorem settles_removeInstance :
    Settles (e.instances.contains id = false) e (e.removeInstance id).2
      (e.removeInstance id).1.isNone := by
  cases hi : e.instances.get? id with
  | none =>
      rw [removeInstance_of_none hi]
      exact .refused (Store.contains_eq_false_iff.mpr hi) rfl
  | some i =>
      obtain ⟨events, heq⟩ := removeInstance_of_some hi
      rw [heq]
      refine .done ?_
      rw [Store.contains_eq_false_iff, hi]
      exact Option.some_ne_none i

/-- A new instance is refused if its kind has no definition. -/
theorem settles_createInstance (kind : Kind) (properties : Dict Value) :
    Settles (e.types.get? kind = none) e (e.createInstance kind id properties).2
      (e.createInstance kind id properties).1.isNone := by
  rcases e.createInstance_cases kind id properties with ⟨hkind, heq⟩ | ⟨d, events, hkind, heq⟩
  · rw [heq]
    exact .refused hkind rfl
  · rw [heq]
    refine .done ?_
    rw [hkind]
    exact Option.some_ne_none d

/-! ### Connections -/

/-- A point passes the check if it is there. -/
theorem checkPoint_eq_ok_iff {p : Endpoint} :
    e.checkPoint p = .ok () ↔ e.pointOf? p.component p.point ≠ none := by
  rw [checkPoint]
  by_cases hc : e.instances.contains p.component = true
  · rw [hc]
    cases hp : e.pointOf? p.component p.point with
    | none => simp
    | some point => simp
  · rw [Bool.not_eq_true] at hc
    have hnone : e.pointOf? p.component p.point = none := by
      rw [pointOf?, Store.contains_eq_false_iff.mp hc]
    simp [hc, hnone]

/-- A connection is refused if one of its points is not there. -/
theorem settles_connect (source target : Endpoint) (transform? : Option Transform) :
    Settles (e.pointOf? source.component source.point = none ∨
        e.pointOf? target.component target.point = none) e
      (e.connect source target transform?).2 !(e.connect source target transform?).1.isOk := by
  have hcheck : ∀ {p err}, e.checkPoint p = .error err →
      e.pointOf? p.component p.point = none := by
    intro p err h
    by_contra hp
    rw [checkPoint_eq_ok_iff.mpr hp] at h
    exact nomatch h
  rw [connect]
  split
  · next err hs => exact .refused (.inl (hcheck hs)) rfl
  · next err hs ht => exact .refused (.inr (hcheck ht)) rfl
  · next hs ht =>
      exact .done (not_or.mpr ⟨checkPoint_eq_ok_iff.mp hs, checkPoint_eq_ok_iff.mp ht⟩)

/-- A disconnection is refused if there is no connection of the id. -/
theorem settles_disconnect :
    Settles (Dict.get? e.graph.index id = none) e (e.disconnect id).2 !(e.disconnect id).1 := by
  cases hi : Dict.get? e.graph.index id with
  | none =>
      have hget : e.graph.get? id = none := by rw [Graph.get?, hi]; rfl
      have hgraph : e.graph.disconnect id = (false, e.graph) := by rw [Graph.disconnect, hi]
      rw [disconnect, hget, hgraph]
      exact .refused rfl rfl
  | some n =>
      have hgraph : (e.graph.disconnect id).1 = true := by rw [Graph.disconnect, hi]
      have hanswer : (e.disconnect id).1 = true := by
        rw [disconnect]
        generalize e.graph.disconnect id = r at hgraph ⊢
        obtain ⟨removed, graph⟩ := r
        obtain rfl : removed = true := hgraph
        cases e.graph.get? id <;> rfl
      rw [hanswer]
      exact .done (Option.some_ne_none n)

/-! ### Calls -/

/-- An emission is refused at the limit, and from a component that is not there. -/
theorem settles_emit (source : Endpoint) (v : Value) :
    Settles (e.config.runtime.maxEmitDepth ≤ e.emitDepth ∨
        e.instances.contains source.component = false) e (e.emit source v).2
      (!(e.emit source v).1.isOk || !e.instances.contains source.component) := by
  by_cases hlimit : e.config.runtime.maxEmitDepth ≤ e.emitDepth
  · rw [emit_of_le hlimit]
    exact .refused (.inl hlimit) rfl
  · cases hc : e.instances.contains source.component with
    | false =>
        have hemit : e.emit source v = (.ok [], e) := by
          rw [emit_eq, emitBy, if_neg hlimit, hc]
          rfl
        rw [hemit]
        exact .refused (.inr rfl) rfl
    | true =>
        obtain ⟨deliveries, hok⟩ : ∃ deliveries, (e.emit source v).1 = .ok deliveries :=
          emit_of_lt (not_le.mp hlimit)
        rw [hok]
        exact .done (not_or.mpr ⟨hlimit, Bool.noConfusion⟩)

/-- An input is refused if its component is not there. -/
theorem settles_sendInput (target : Endpoint) (v : Value) :
    Settles (e.instances.contains target.component = false) e (e.sendInput target v).2
      !(e.sendInput target v).1 := by
  have hfst : (e.instances.setStateValue target.component target.point v).1 =
      e.instances.contains target.component := Store.mutate_fst
  refine settles_of_contains ?_ fun hc => ?_
  · rw [sendInput, ← hfst]
    rcases e.instances.setStateValue target.component target.point v with ⟨_ | _, s⟩ <;> rfl
  · have hnone : e.instances.setStateValue target.component target.point v =
        (false, e.instances) :=
      Store.mutate_of_get?_eq_none (Store.contains_eq_false_iff.mp hc)
    rw [sendInput, hnone]

/-- Applying a behavior is refused if the behavior or the component is not there, or if the behavior
is not for the kind of the component. -/
theorem settles_applyBehavior (component behavior : String) (options : BehaviorOptions) :
    Settles (∀ found, e.behaviors.get? behavior = some found →
        ∀ i, e.instances.get? component = some i → found.compatibility.allows i.kind = false) e
      (e.applyBehavior component behavior options).2
      !(e.applyBehavior component behavior options).1.isOk := by
  rw [applyBehavior, BehaviorSystem.apply]
  cases hb : e.behaviors.get? behavior with
  | none => exact .refused (fun _ h => by cases h) rfl
  | some found =>
      cases hi : e.instances.get? component with
      | none => exact .refused (fun _ _ _ h => by cases h) rfl
      | some i =>
          cases ha : found.compatibility.allows i.kind with
          | false =>
              simp only [ha]
              refine .refused (fun found' hfound i' hi' => ?_) rfl
              obtain rfl := Option.some.inj hfound
              obtain rfl := Option.some.inj hi'
              exact ha
          | true =>
              simp only [ha, if_true]
              refine .done fun h => ?_
              rw [h found rfl i rfl] at ha
              cases ha

/-- Removing a behavior is refused if there is no application of the id. -/
theorem settles_removeBehavior :
    Settles (e.behaviors.application? id = none) e (e.removeBehavior id).2
      !(e.removeBehavior id).1.isOk := by
  rw [removeBehavior, BehaviorSystem.unapply, BehaviorSystem.application?]
  cases e.behaviors.applied.find? (·.id = id) with
  | none => exact .refused rfl rfl
  | some a => exact .done (Option.some_ne_none a)

/-- Every call is refused without a change or carried out. -/
theorem settles_call (call : Call) : Settles (call.Refused e) e (call.run e) (call.fails e) := by
  cases call with
  | emit source v => exact settles_emit source v
  | sendInput target v => exact settles_sendInput target v
  | applyEffects component effects => exact .done not_false
  | applyBehavior component behavior options =>
      exact settles_applyBehavior component behavior options
  | removeBehavior id => exact settles_removeBehavior

/-! ### Every operation -/

/-- Every operation is refused without a change or carried out. -/
theorem settles_perform (e : Engine) (op : EngineOp) :
    Settles (op.Refused e) e (e.perform op) (op.fails e) := by
  cases op with
  | registerType d => exact .done not_false
  | registerBehavior b => exact .done not_false
  | createInstance kind id properties => exact settles_createInstance kind properties
  | updateInstance id u => exact settles_updateInstance u
  | removeInstance id => exact settles_removeInstance
  | clear => exact .done not_false
  | connect source target transform? => exact settles_connect source target transform?
  | connectNamed source target name? => exact settles_connect source target _
  | disconnect id => exact settles_disconnect
  | autoConnect components => exact .done not_false
  | call call => exact settles_call call
  | setProperty id key v => exact settles_setProperty key v
  | setStyle id property v => exact settles_mutate _
  | addClass id name => exact settles_mutate _
  | removeClass id name => exact settles_mutate _
  | setHidden id hidden => exact settles_mutate _

/-- An operation fails exactly if there is a reason to refuse it, and then the whole engine is as
before. -/
theorem failed_iff_refused (e : Engine) (op : EngineOp) :
    (op.fails e = true ↔ op.Refused e) ∧ (op.fails e = true → e.perform op = e) := by
  have hsettles := settles_perform e op
  generalize op.fails e = failed at hsettles ⊢
  cases hsettles with
  | refused hreason heq => exact ⟨iff_of_true rfl hreason, fun _ => heq⟩
  | done hnone => exact ⟨iff_of_false Bool.noConfusion hnone, nofun⟩

/-- A counter that feeds itself is left alone by operations on what is not there. -/
theorem failed_iff_refused_feedback :
    ∀ op ∈ [EngineOp.disconnect "c1", .connectNamed ⟨"t", "countChanged"⟩ ⟨"t", "gone"⟩ none,
        .call (.emit ⟨"gone", "countChanged"⟩ .null), .call (.applyBehavior "t" "gone" {}),
        .setHidden "gone" true],
      op.fails feedback = true ∧ feedback.perform op = feedback := by
  intro op hop
  have hfails : op.fails feedback = true := by
    simp only [List.mem_cons, List.not_mem_nil, or_false] at hop
    rcases hop with rfl | rfl | rfl | rfl | rfl <;> rfl
  exact ⟨hfails, (failed_iff_refused feedback op).2 hfails⟩

end Engine

end WidgetFlow
