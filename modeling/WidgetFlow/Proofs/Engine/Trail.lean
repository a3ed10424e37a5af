import WidgetFlow.Proofs.Engine.Emission
import WidgetFlow.Proofs.Engine.Inputs
import WidgetFlow.Proofs.Flow.Propagation
import WidgetFlow.Proofs.Widget.Bare

/-!
# The trail of what is done to an engine

What is done to an engine records events. The log has room for the latest ones only, so that the
events of one call are not read off the log that it leaves. `Engine.Records act e events` says
instead that `act` records `events` on any log that the engine may have, and does nothing else to
the log or with it; no other list of events will do (`Records.unique`).

`Engine.Trail act e due events` ties the events to what else is done: an instance that no value came
to is the same afterwards, apart from those that are `due`, and the applications heard what the
events say. An instance that is written is due until the event about it is recorded. Emissions owe
nothing in the end, however they nest: every value that a connection carries is received, and what a
hook asks for is written where a value was received.

## Main results

* `Trail.trans`, `Trail.foldl`: trails one after the other.
* `received_trail`: a value that is received and answered leaves nothing due.
* `emitWithin_trail`: neither does an emission, by induction on the room for nested ones.
* `emitSilently_trail`, `sendInput_trail`: the calls that values travel by.
-/

namespace WidgetFlow

/-! ### Events in turn -/

/-- Some of the events tell that a value has come to a point of a component. -/
def Reached (events : List Event) (id : String) : Prop :=
  ∃ event ∈ events, event.kind = .connectionDataReceived ∧ event.component = id

/-- A component is reached first or later. -/
theorem reached_append {events events' : List Event} {id : String} :
    Reached (events ++ events') id ↔ Reached events id ∨ Reached events' id := by
  simp only [Reached, List.mem_append, or_and_right, exists_or]

/-- An arrival reaches its target. -/
theorem reached_arrival (connection? : Option String) (target : Endpoint) (v : Value) :
    Reached [Event.arrival connection? target v] target.component :=
  ⟨_, List.mem_singleton_self _, rfl, rfl⟩

namespace EventLog

/-- Records events in turn. -/
def recordAll (log : EventLog) (events : List Event) : EventLog := events.foldl record log

/-- Events are recorded in turn. -/
theorem recordAll_append (log : EventLog) (events events' : List Event) :
    log.recordAll (events ++ events') = (log.recordAll events).recordAll events' :=
  List.foldl_append

/-- Events that are made from the items of a list are recorded item by item. -/
theorem recordAll_map {α : Type} (log : EventLog) (event : α → Event) (items : List α) :
    log.recordAll (items.map event) = items.foldl (fun log a => log.record (event a)) log :=
  List.foldl_map

/-- A single observer that wants all events is passed all of them in turn. -/
theorem calls_recordAll (log : EventLog) (n : Nat) (hall : log.subscriptions = [⟨n, []⟩])
    (events : List Event) :
    (log.recordAll events).calls = log.calls ++ events.map fun event => (n, event) := by
  induction events generalizing log with
  | nil => exact (List.append_nil _).symm
  | cons event rest ih =>
      have hfirst : (log.record event).calls = log.calls ++ [(n, event)] := by
        rw [record, hall]
        rfl
      rw [recordAll, List.foldl_cons, ← recordAll, ih (log.record event) hall, hfirst,
        List.append_assoc]
      rfl

end EventLog

/-- An instance that nothing is delivered to is left alone by what connections carry. -/
theorem Graph.get?_propagate {g : Graph} {source : Endpoint} {v : Value} {s : Store} {id : String}
    (h : ∀ d ∈ (g.propagate source v s).1, d.target.component ≠ id) :
    (g.propagate source v s).2.1.get? id = s.get? id := by
  rw [propagate_eq_carrying] at h ⊢
  exact (Store.receives_receiveAll s _).aside id h

namespace Engine

/-! ### What is recorded -/

/-- An engine with another log. -/
def relog (e : Engine) (log : EventLog) : Engine := { e with events := log }

/-- What is done to an engine records some events, whatever log the engine has, and apart from this
neither changes the log nor depends on it. -/
def Records (act : Engine → Engine) (e : Engine) (events : List Event) : Prop :=
  ∀ log, act (e.relog log) = (act e).relog (log.recordAll events)

variable {act act' : Engine → Engine} {e : Engine} {due due' : String → Prop}
  {events events' : List Event}

/-- What is done to an engine records one list of events. -/
theorem Records.unique (h : e.Records act events) (h' : e.Records act events') :
    events = events' := by
  let log : EventLog := { capacity := 0, subscriptions := [⟨0, []⟩] }
  have hlogs : log.recordAll events = log.recordAll events' :=
    congrArg Engine.events ((h log).symm.trans (h' log))
  have hcalls := congrArg EventLog.calls hlogs
  rw [log.calls_recordAll 0 rfl, log.calls_recordAll 0 rfl] at hcalls
  exact List.map_injective_iff.mpr (Prod.mk_right_injective 0) hcalls

/-! ### Trails -/

/-- What is done to an engine records some events; an instance that they do not reach is the same
afterwards unless it is due; and the applications heard what the events say. -/
structure Trail (act : Engine → Engine) (e : Engine) (due : String → Prop)
    (events : List Event) : Prop where
  records : e.Records act events
  accounts : ∀ id, ¬ due id → ¬ Reached events id →
    (act e).instances.get? id = e.instances.get? id
  heard : e.behaviors.Heard events (act e).behaviors

namespace Trail

/-- Nothing is done. -/
theorem refl (e : Engine) (due : String → Prop) : Trail (fun e => e) e due [] where
  records _ := rfl
  accounts _ _ _ := rfl
  heard := .refl e.behaviors

/-- One thing is done and then another. -/
theorem trans (h : Trail act e due events) (h' : Trail act' (act e) due events') :
    Trail (fun e => act' (act e)) e due (events ++ events') where
  records log := by
    rw [EventLog.recordAll_append]
    exact (congrArg act' (h.records log)).trans (h'.records (log.recordAll events))
  accounts id hdue hreached := by
    obtain ⟨hfirst, hrest⟩ := not_or.mp (mt reached_append.mpr hreached)
    exact (h'.accounts id hdue hrest).trans (h.accounts id hdue hfirst)
  heard := h.heard.trans h'.heard

/-- The same is done in another way. -/
theorem congr (h : Trail act e due events)
    (hact : ∀ log, act' (e.relog log) = act (e.relog log)) : Trail act' e due events := by
  have he : act' e = act e := hact e.events
  refine ⟨fun log => ?_, fun id => ?_, ?_⟩
  · rw [hact, he, h.records]
  · rw [he]
    exact h.accounts id
  · rw [he]
    exact h.heard

/-- What is reached is not due any more. -/
theorem mono (h : Trail act e due events) (hdue : ∀ id, due id → due' id ∨ Reached events id) :
    Trail act e due' events :=
  ⟨h.records, fun id hid hreached =>
    h.accounts id (fun hold => (hdue id hold).elim hid hreached) hreached, h.heard⟩

/-- Where nothing is due, anything may be. -/
theorem weaken (h : Trail act e (fun _ => False) events) (due : String → Prop) :
    Trail act e due events :=
  h.mono fun _ => False.elim

/-- What is done for the items of a list in turn. -/
theorem foldl {α : Type} {f : Engine → α → Engine} {items : List α}
    (hf : ∀ a ∈ items, ∀ e, ∃ events, Trail (fun e => f e a) e due events) (e : Engine) :
    ∃ events, Trail (fun e => items.foldl f e) e due events := by
  induction items generalizing e with
  | nil => exact ⟨[], .refl e due⟩
  | cons a rest ih =>
      rw [List.forall_mem_cons] at hf
      obtain ⟨events, hfirst⟩ := hf.1 e
      obtain ⟨events', hrest⟩ := ih hf.2 (f e a)
      exact ⟨events ++ events', hfirst.trans hrest⟩

/-- Instances are written, those that are due. -/
theorem write (write : Store → Store)
    (h : ∀ id, ¬ due id → (write e.instances).get? id = e.instances.get? id) :
    Trail (fun e => { e with instances := write e.instances }) e due [] where
  records _ := rfl
  accounts id hdue _ := h id hdue
  heard := .refl e.behaviors

/-- A flow goes back one level. -/
theorem leave (e : Engine) (due : String → Prop) :
    Trail (fun e => { e with emitDepth := e.emitDepth - 1 }) e due [] where
  records _ := rfl
  accounts _ _ _ := rfl
  heard := .refl e.behaviors

/-- An event of another kind is recorded. -/
theorem record (event : Event) (h : event.kind ≠ .connectionDataReceived) (e : Engine)
    (due : String → Prop) : Trail (fun e => e.record event) e due [event] where
  records _ := rfl
  accounts _ _ _ := rfl
  heard := .of_sublist rfl rfl (fun _ hevent => List.mem_singleton.mp hevent ▸ h) (.refl _)

end Trail

/-! ### Emissions -/

/-- A value is received at a point, and the hooks that listen there have run. -/
def received (e : Engine) (connection? : Option String) (target : Endpoint) (v : Value) : Engine :=
  { e with
    behaviors := (e.behaviors.deliver target.component target.point v e.instances).2
    events := e.events.record (.arrival connection? target v) }

/-- A value that is received is heard. -/
theorem Trail.received (e : Engine) (connection? : Option String) (target : Endpoint) (v : Value)
    (due : String → Prop) : Trail (fun e => e.received connection? target v) e due
      [.arrival connection? target v] where
  records _ := rfl
  accounts _ _ _ := rfl
  heard := .deliver e.behaviors connection? target v e.instances

section Steps

variable {emit : Engine → Endpoint → Value → Engine}
  (hemit : ∀ e source v, ∃ events,
    Trail (fun e => emit e source v) e (fun _ => False) events)

include hemit

/-- Applying what a hook asks for leaves its component due. -/
theorem applyOutcomeBy_trail (o : HookOutcome) (e : Engine) : ∃ events,
    Trail (fun e => applyOutcomeBy emit e o) e (fun id => o.component = id) events := by
  have hwrite : Trail (fun e =>
      { e with instances := o.effects.foldl (Effect.apply o.component) e.instances }) e
      (fun id => o.component = id) [] :=
    .write (fun s => o.effects.foldl (Effect.apply o.component) s)
      fun _ hne => Effect.get?_foldl_apply_of_ne o.effects hne
  have hemission : ∀ m ∈ o.effects.filterMap Effect.emission?, ∀ e, ∃ events,
      Trail (fun e => emit e ⟨o.component, m.1⟩ m.2) e (fun id => o.component = id) events :=
    fun m _ e => (hemit e ⟨o.component, m.1⟩ m.2).imp fun _ h => h.weaken _
  obtain ⟨events, hrest⟩ := Trail.foldl hemission
    { e with instances := o.effects.foldl (Effect.apply o.component) e.instances }
  exact ⟨_, hwrite.trans hrest⟩

/-- A value that is received and answered leaves nothing due, since what the hooks write is where it
was received. -/
theorem received_trail (connection? : Option String) (target : Endpoint) (v : Value) (e : Engine) :
    ∃ events, Reached events target.component ∧
      Trail (fun e => runBehaviorsBy emit (e.record (.arrival connection? target v)) target v) e
        (fun _ => False) events := by
  let outcomes := (e.behaviors.deliver target.component target.point v e.instances).1
  have hcomponent : ∀ o ∈ outcomes, o.component = target.component := by
    intro o ho
    simp only [outcomes, BehaviorSystem.deliver_eq] at ho
    obtain ⟨a, -, rfl⟩ := List.mem_map.mp ho
    rfl
  have hreceived := Trail.received e connection? target v fun id => target.component = id
  obtain ⟨events, hanswered⟩ := Trail.foldl
    (fun o ho e => hcomponent o ho ▸ applyOutcomeBy_trail hemit o e)
    (e.received connection? target v)
  have hreached : Reached ([.arrival connection? target v] ++ events) target.component :=
    reached_append.mpr (.inl (reached_arrival connection? target v))
  refine ⟨_, hreached, ((hreceived.trans hanswered).congr fun _ => rfl).mono fun id hid => ?_⟩
  exact .inr (hid ▸ hreached)

/-- Settling a delivery leaves nothing due. -/
theorem settleBy_trail (source : Endpoint) (v : Value) (d : Delivery) (e : Engine) :
    ∃ events, Reached events d.target.component ∧
      Trail (fun e => settleBy emit source v e d) e (fun _ => False) events := by
  have hsent := Trail.record
    { kind := .connectionDataSent, component := source.component
      connection? := some d.connectionId, payload := pointPayload source.point v }
    EventKind.noConfusion e fun _ => False
  obtain ⟨events, hreached, hreceived⟩ :=
    received_trail hemit (some d.connectionId) d.target d.value (e.record _)
  exact ⟨_, reached_append.mpr (.inr hreached), hsent.trans hreceived⟩

/-- Settling deliveries in turn leaves nothing due, and each of them reaches its target. -/
theorem foldl_settleBy_trail (source : Endpoint) (v : Value) (deliveries : List Delivery)
    (e : Engine) : ∃ events, (∀ d ∈ deliveries, Reached events d.target.component) ∧
      Trail (fun e => deliveries.foldl (settleBy emit source v) e) e (fun _ => False) events := by
  induction deliveries generalizing e with
  | nil => exact ⟨[], nofun, .refl e _⟩
  | cons d rest ih =>
      obtain ⟨events, hreached, hfirst⟩ := settleBy_trail hemit source v d e
      obtain ⟨events', hreached', hrest⟩ := ih (settleBy emit source v e d)
      refine ⟨events ++ events', List.forall_mem_cons.mpr ⟨?_, fun d' hd' => ?_⟩,
        hfirst.trans hrest⟩
      · exact reached_append.mpr (.inl hreached)
      · exact reached_append.mpr (.inr (hreached' d' hd'))

end Steps

/-- An emission leaves nothing due, however many emissions nest in it: what is carried over a
connection is received at its end. The induction is on the room that is left for nested
emissions. -/
theorem emitWithin_trail (room : Nat) (e : Engine) (source : Endpoint) (v : Value) :
    ∃ events, Trail (fun e => (emitWithin room e source v).2) e (fun _ => False) events := by
  induction room generalizing e source v with
  | zero => exact ⟨[], (Trail.refl e _).congr fun _ => rfl⟩
  | succ room ih =>
      by_cases hc : e.instances.contains source.component = true
      · have hentered : Trail (fun e => (e.entered source v).2) e
            (fun id => ∃ d ∈ (e.entered source v).1, d.target.component = id) [] := by
          refine ⟨fun _ => rfl, fun id hdue _ => ?_, .refl e.behaviors⟩
          exact Graph.get?_propagate fun d hd htarget => hdue ⟨d, hd, htarget⟩
        obtain ⟨events, hreached, hsettled⟩ :=
          foldl_settleBy_trail ih source v (e.entered source v).1 (e.entered source v).2
        have htrail := hentered.trans ((hsettled.trans (.leave _ _)).weaken _)
        refine ⟨_, (htrail.mono ?_).congr fun log => ?_⟩
        · rintro id ⟨d, hd, rfl⟩
          rw [List.nil_append, List.append_nil]
          exact .inr (hreached d hd)
        · have hc' : (e.relog log).instances.contains source.component = true := hc
          rw [emitWithin, if_pos hc']
          rfl
      · refine ⟨[], (Trail.refl e _).congr fun log => ?_⟩
        have hc' : ¬ (e.relog log).instances.contains source.component = true := hc
        rw [emitWithin, if_neg hc']

/-- An emission leaves nothing due. -/
theorem emitSilently_trail (e : Engine) (source : Endpoint) (v : Value) :
    ∃ events, Trail (fun e => e.emitSilently source v) e (fun _ => False) events :=
  (emitWithin_trail (e.config.runtime.maxEmitDepth - e.emitDepth) e source v).imp
    fun _ h => h.congr fun _ => rfl

/-- A value put in from outside leaves nothing due. -/
theorem sendInput_trail (e : Engine) (target : Endpoint) (v : Value) :
    ∃ events, Trail (fun e => (e.sendInput target v).2) e (fun _ => False) events := by
  rcases hset : e.instances.setStateValue target.component target.point v with ⟨_ | _, s⟩
  · refine ⟨[], (Trail.refl e _).congr fun log => ?_⟩
    have hset' : (e.relog log).instances.setStateValue target.component target.point v =
      (false, s) := hset
    rw [sendInput, hset']
  · have hwrite : Trail (fun e => { e with
        instances := (e.instances.setStateValue target.component target.point v).2 }) e
        (fun id => target.component = id) [] :=
      .write (fun s => (s.setStateValue target.component target.point v).2)
        fun _ hne => Store.get?_mutate_of_ne hne
    obtain ⟨events, hreached, hreceived⟩ := received_trail emitSilently_trail none target v
      { e with instances := (e.instances.setStateValue target.component target.point v).2 }
    have htrail := hwrite.trans (hreceived.weaken _)
    refine ⟨_, (htrail.mono fun id hid => .inr (hid ▸ hreached)).congr fun log => ?_⟩
    have hset' : (e.relog log).instances.setStateValue target.component target.point v =
      (true, s) := hset
    rw [sendInput, hset']
    rfl

end Engine

end WidgetFlow
