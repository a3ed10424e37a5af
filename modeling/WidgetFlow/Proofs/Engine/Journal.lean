import WidgetFlow.Proofs.Flow.Ledger
import WidgetFlow.Proofs.Engine.Closed

/-!
# The events of an engine are a journal

Events are recorded by hand beside each change: an engine that removes an instance looks up the
doomed connections once to remove them and once more to tell of them, clearing removes instances one
by one and then empties the registries, and emissions nest in each other. `Engine.Journaled` says
that all the same the events that an observer has seen tell exactly what is live. Every operation
keeps it.

Values that travel change nothing that is live. `Speaks e e'` says this of the events: they keep
every ledger that has the connections of the engine. Like `Flows` it is proved once for emissions,
by induction on the room that is left for nested ones.

## Main results

* `emitWithin_speaks`: an emission only speaks of connections that are there.
* `Journaled.removeInstance`, `Journaled.clear`: what goes with a removed instance is told in full.
* `Journaled.perform`: every operation keeps an engine journaled.
* `journal_faithful`: after every run of operations on a new engine, the events tell what is live.
-/

namespace WidgetFlow.Engine

variable {e e' e'' : Engine} {id : String}

/-! ### What values speak of -/

/-- The second engine has the connections of the first, and its events keep every ledger with these
connections that the events of the first keep. -/
structure Speaks (e e' : Engine) : Prop where
  graph : e'.graph = e.graph
  keeps : ∀ {l : Ledger}, l.connections = e.graph.ids → e.events.Keeps l → e'.events.Keeps l

/-- No events are recorded and no connection changes. -/
theorem Speaks.of_eq (hgraph : e'.graph = e.graph) (hevents : e'.events = e.events) :
    Speaks e e' :=
  ⟨hgraph, fun _ h => hevents ▸ h⟩

/-- Nothing is said. -/
theorem Speaks.refl (e : Engine) : Speaks e e := .of_eq rfl rfl

/-- What is said one after the other. -/
theorem Speaks.trans (h : Speaks e e') (h' : Speaks e' e'') : Speaks e e'' :=
  ⟨h'.graph.trans h.graph, fun hl hkeeps => h'.keeps (h.graph ▸ hl) (h.keeps hl hkeeps)⟩

/-- What is said for the items of a list in turn. -/
theorem Speaks.foldl {α : Type} {f : Engine → α → Engine} (items : List α) (e : Engine)
    (hf : ∀ e', e'.graph = e.graph → ∀ a ∈ items, Speaks e' (f e' a)) :
    Speaks e (items.foldl f e) :=
  List.foldlRecOn items f (.refl e) fun e' h a ha => h.trans (hf e' h.graph a ha)

section Steps

variable {emit : Engine → Endpoint → Value → Engine}
  (hemit : ∀ e source v, Speaks e (emit e source v))

include hemit

/-- Applying what a hook asks for says what the emissions say. -/
theorem applyOutcomeBy_speaks (e : Engine) (o : HookOutcome) :
    Speaks e (applyOutcomeBy emit e o) := by
  have hwrite : Speaks e
      { e with instances := (WidgetFlow.applyEffects o.component o.effects e.instances).2 } :=
    .of_eq rfl rfl
  exact hwrite.trans (.foldl _ _ fun e' _ m _ => hemit e' ⟨o.component, m.1⟩ m.2)

/-- Running the behaviors that listen at a point says what the emissions say. -/
theorem runBehaviorsBy_speaks (e : Engine) (target : Endpoint) (v : Value) :
    Speaks e (runBehaviorsBy emit e target v) := by
  have hhooks : Speaks e { e with
      behaviors := (e.behaviors.deliver target.component target.point v e.instances).2 } :=
    .of_eq rfl rfl
  exact hhooks.trans (.foldl _ _ fun e' _ o _ => applyOutcomeBy_speaks hemit e' o)

/-- Settling a delivery speaks of the connection that it came over. -/
theorem settleBy_speaks (source : Endpoint) (v : Value) (e : Engine) {d : Delivery}
    (hd : d.connectionId ∈ e.graph.ids) : Speaks e (settleBy emit source v e d) := by
  -- both events are recorded before a behavior runs, so that nothing comes between them
  refine .trans ?_ (runBehaviorsBy_speaks hemit _ _ _)
  exact ⟨rfl, fun hl hkeeps => hkeeps.delivered (hl ▸ hd) _ _ _ _⟩

end Steps

/-- An emission only speaks of connections that are there, however many emissions nest in it. -/
theorem emitWithin_speaks (room : Nat) (e : Engine) (source : Endpoint) (v : Value) :
    Speaks e (emitWithin room e source v).2 := by
  induction room generalizing e source v with
  | zero => exact .refl e
  | succ room ih =>
      rw [emitWithin]
      split
      · have hstart : Speaks e (e.entered source v).2 := .of_eq rfl rfl
        have hsettled := hstart.trans (.foldl (e.entered source v).1 _ fun e' hgraph d hd =>
          settleBy_speaks ih source v e' (by
            rw [hgraph]
            exact Graph.connectionId_mem_ids hd))
        exact hsettled.trans (.of_eq rfl rfl)
      · exact .refl e

/-- An emission whose deliveries are dropped only speaks of connections that are there. -/
theorem emitSilently_speaks (e : Engine) (source : Endpoint) (v : Value) :
    Speaks e (e.emitSilently source v) :=
  emitWithin_speaks _ e source v

/-- A value put in from outside is received over no connection. -/
theorem sendInput_speaks (e : Engine) (target : Endpoint) (v : Value) :
    Speaks e (e.sendInput target v).2 := by
  rw [sendInput]
  split
  · exact .refl e
  · refine .trans ?_ (runBehaviorsBy_speaks emitSilently_speaks _ _ _)
    exact ⟨rfl, fun _ hkeeps => hkeeps.record (hkeeps.tells.aside rfl) rfl⟩

/-! ### Journaled engines -/

/-- What is live in an engine. -/
def ledger (e : Engine) : Ledger :=
  ⟨e.instances.contains, e.graph.ids, e.graph.next, e.behaviors.applied.map Applied.label⟩

/-- The events that the observer has seen tell what is live. -/
structure Journaled (e : Engine) : Prop where
  named : e.graph.Named
  keeps : e.events.Keeps e.ledger

/-- A flow changes nothing that is live. -/
theorem Flows.ledger (h : Flows e e') : e'.ledger = e.ledger := by
  have hinstances : e'.instances.contains = e.instances.contains := funext h.writes.contains
  rw [Engine.ledger, Engine.ledger, hinstances, h.graph, h.labels]

/-- A flow that only speaks of connections that are there keeps an engine journaled. -/
theorem Journaled.flows (h : e.Journaled) (hf : Flows e e') (hs : Speaks e e') : e'.Journaled :=
  ⟨hs.graph ▸ h.named, hf.ledger ▸ hs.keeps rfl h.keeps⟩

/-! ### Instances -/

/-- Creating an instance keeps an engine journaled, also in place of an earlier one. -/
theorem Journaled.createInstance (h : e.Journaled) (kind : Kind) (id : String)
    (properties : Dict Value) : (e.createInstance kind id properties).2.Journaled := by
  rw [Engine.createInstance, Registry.instantiate]
  cases hk : e.types.get? kind with
  | none => exact h
  | some d =>
      refine ⟨h.named, ?_⟩
      have hcreated := h.keeps.record (h.keeps.tells.created
        (d.instantiate id (Dict.union d.defaults properties)).id
        (.obj [("type", .str kind.tag)])) rfl
      simp only [Ledger.create, ledger, ← Store.contains_register] at hcreated
      exact hcreated

/-- Updating an instance keeps an engine journaled. -/
theorem Journaled.updateInstance (h : e.Journaled) (id : String) (u : InstanceUpdate) :
    (e.updateInstance id u).2.Journaled := by
  have hlive : (e.instances.update id u).2.contains = e.instances.contains :=
    funext fun key => Store.contains_mutate
  rw [Engine.updateInstance]
  rcases hu : e.instances.update id u with ⟨_ | _, instances⟩
  · exact h
  · rw [hu] at hlive
    refine ⟨h.named, ?_⟩
    have hupdated := h.keeps.record (e := { kind := .instanceUpdated, component := id })
      (h.keeps.tells.aside rfl) rfl
    rw [ledger, ← hlive] at hupdated
    exact hupdated

/-- Removing an instance keeps an engine journaled: it tells of the connections that go and then of
the instance, with which goes what is applied to it. -/
theorem Journaled.removeInstance (h : e.Journaled) (he : e.Closed) (id : String) :
    (e.removeInstance id).2.Journaled := by
  cases hi : e.instances.get? id with
  | none => rwa [removeInstance_of_none hi]
  | some i =>
      rw [removeInstance_eq hi]
      refine ⟨h.named.removeFor id, ?_⟩
      -- the connections that are told of and those that are left make up what was there
      have hdoomed := h.keeps.disconnectAll id (e.graph.removeFor_perm id)
      rw [List.foldl_map] at hdoomed
      have hremoved := hdoomed.record (hdoomed.tells.removed id .null) rfl
      have happlied : (e.behaviors.detachAll id).2.applied.map Applied.label =
          (e.behaviors.applied.map Applied.label).filter (·.2.2 != id) := by
        rw [List.filter_map]
        rfl
      simp only [Ledger.remove, Ledger.disconnect, ledger, ← happlied,
        ← Store.contains_remove he.indexed.sorted] at hremoved
      exact hremoved

/-- Clearing keeps an engine journaled: when all instances are gone, nothing else is left. -/
theorem Journaled.clear (h : e.Journaled) (he : e.Closed) : e.clear.Journaled := by
  have hremoved : (e.instances.ids.foldl (fun e id => (e.removeInstance id).2) e).Journaled :=
    (List.foldlRecOn (motive := fun e : Engine => e.Closed ∧ e.Journaled) _ _ ⟨he, h⟩
      fun _ h id _ => ⟨h.1.removeInstance id, h.2.removeInstance h.1 id⟩).2
  obtain ⟨hall, happlied⟩ := (he.removeInstances e.instances.ids).eq_nil (get?_removeAll he)
  have hkeeps := hremoved.keeps
  rw [ledger, Graph.ids, hall, happlied] at hkeeps
  exact ⟨.clear _, hkeeps⟩

/-! ### Connections -/

/-- Connecting keeps an engine journaled. -/
theorem Journaled.connect (h : e.Journaled) (source target : Endpoint)
    (transform? : Option Transform) : (e.connect source target transform?).2.Journaled := by
  rw [Engine.connect]
  split
  · exact h
  · exact h
  · refine ⟨h.named.connect source target transform?, ?_⟩
    have hconnected := h.keeps.record (h.keeps.tells.connected source.component
      (.obj [("sourcePoint", .str source.point), ("targetId", .str target.component),
        ("targetPoint", .str target.point)])) rfl
    simp only [Ledger.connect, ledger, ← Graph.ids_connect source target transform?] at hconnected
    exact hconnected

/-- Disconnecting keeps an engine journaled: a connection that is removed was found. -/
theorem Journaled.disconnect (h : e.Journaled) (id : String) :
    (e.disconnect id).2.Journaled := by
  have hnamed := h.named.disconnect id
  rw [Engine.disconnect]
  cases hc : e.graph.get? id with
  | none =>
      refine ⟨hnamed, ?_⟩
      have hkeeps := h.keeps
      rw [ledger, ← Graph.ids_disconnect_of_none hc, ← Graph.next_disconnect] at hkeeps
      exact hkeeps
  | some c =>
      obtain ⟨hfound, hperm⟩ := h.named.disconnect_perm hc
      have hgone := h.keeps.record
        (h.keeps.tells.disconnected hperm c.source.component .null) rfl
      rw [Ledger.disconnect, ledger, ← @Graph.next_disconnect e.graph id] at hgone
      rcases hd : e.graph.disconnect id with ⟨removed, graph⟩
      rw [hd] at hnamed hfound hgone
      subst hfound
      exact ⟨hnamed, hgone⟩

/-- Connecting automatically keeps an engine journaled. -/
theorem Journaled.autoConnect (h : e.Journaled) (components : List String) :
    (e.autoConnect components).2.Journaled := by
  rw [autoConnect_snd]
  exact List.foldlRecOn _ _ h fun _ he p _ => he.connect p.source p.target _

/-! ### Behaviors -/

/-- A call keeps an engine journaled, whatever it emits. -/
theorem Journaled.call (h : e.Journaled) (call : Call) : (call.run e).Journaled := by
  cases call with
  | emit source v => exact h.flows (e.emit_flows source v) (e.emitSilently_speaks source v)
  | sendInput target v => exact h.flows (e.sendInput_flows target v) (e.sendInput_speaks target v)
  | applyEffects component effects =>
      exact h.flows (e.applyEffects_flows component effects)
        (applyOutcomeBy_speaks emitSilently_speaks e _)
  | applyBehavior component behavior options =>
      rw [Call.run]
      rcases e.applyBehavior_eq component behavior options with heq | ⟨howner, found, -, heq⟩
      · rwa [heq]
      · rw [heq]
        refine Journaled.flows ?_ (applyOutcomeBy_flows emitSilently_flows _ _)
          (applyOutcomeBy_speaks emitSilently_speaks _ _)
        refine ⟨h.named, ?_⟩
        have happlied := h.keeps.record (h.keeps.tells.applied
          (BehaviorSystem.idOf e.behaviors.next) behavior component) rfl
        rw [ledger, List.map_append]
        exact happlied
  | removeBehavior id =>
      rw [Call.run]
      rcases e.removeBehavior_eq id with heq | ⟨outcome, heq⟩
      · rwa [heq]
      · rw [heq]
        refine Journaled.flows ?_ (applyOutcomeBy_flows emitSilently_flows _ _)
          (applyOutcomeBy_speaks emitSilently_speaks _ _)
        refine ⟨h.named, ?_⟩
        have hunapplied := h.keeps.record (h.keeps.tells.unapplied id outcome.component) rfl
        rw [Ledger.unapply, ledger, List.filter_map] at hunapplied
        exact hunapplied

/-! ### Runs -/

/-- A write from outside changes nothing that is live. -/
theorem Journaled.write {s : Store} (h : e.Journaled) (hw : e.instances.Writes s) :
    { e with instances := s }.Journaled :=
  h.flows ((Flows.refl e).write hw) (.of_eq rfl rfl)

/-- Every operation keeps an engine journaled. -/
theorem Journaled.perform (h : e.Journaled) (he : e.Closed) (op : EngineOp) :
    (e.perform op).Journaled := by
  cases op with
  | registerType d => exact ⟨h.named, h.keeps.record (h.keeps.tells.aside rfl) rfl⟩
  | registerBehavior b => exact ⟨h.named, h.keeps⟩
  | createInstance kind id properties => exact h.createInstance kind id properties
  | updateInstance id u => exact h.updateInstance id u
  | removeInstance id => exact h.removeInstance he id
  | clear => exact h.clear he
  | connect source target transform? => exact h.connect source target transform?
  | connectNamed source target name? => exact h.connect source target _
  | disconnect id => exact h.disconnect id
  | autoConnect components => exact h.autoConnect components
  | call call => exact h.call call
  | setProperty id key v => exact h.write .of_setProperty
  | setStyle id property v => exact h.write .of_present
  | addClass id name => exact h.write .of_present
  | removeClass id name => exact h.write .of_present
  | setHidden id hidden => exact h.write .of_present

/-- A new engine, watched from the start by an observer that wants every kind of events, and by
others. -/
def observed (config : Config) (others : List (List EventKind)) : Engine :=
  { Engine.new config with
    events := .observed config.runtime.eventHistoryCapacity others }

/-- A new engine is journaled. -/
theorem Journaled.observed (config : Config) (others : List (List EventKind)) :
    (Engine.observed config others).Journaled :=
  ⟨.clear {}, EventLog.keeps_observed _ others⟩

/-- Every run of operations keeps an engine journaled. -/
theorem Journaled.run (h : e.Journaled) (he : e.Closed) (ops : List EngineOp) :
    (ops.foldl Engine.perform e).Journaled :=
  (List.foldlRecOn (motive := fun e : Engine => e.Closed ∧ e.Journaled) ops Engine.perform ⟨he, h⟩
    fun _ h op _ => ⟨h.1.perform op, h.2.perform h.1 op⟩).2

/-- **The events are a faithful journal.** After every run of operations on a new engine, what an
observer of all events has seen tells what is live:

* the instances are those whose creation stands, that is, was not followed by a removal;
* the connections are those whose creation stands;
* the applications are those that stand, neither their removal nor that of the instance having
  followed;
* no connection is removed twice;
* every value on its way names a connection that stands at this moment, and what is sent over it is
  received over it next. -/
theorem journal_faithful (config : Config) (others : List (List EventKind))
    (ops : List EngineOp) :
    let e := ops.foldl Engine.perform (Engine.observed config others)
    let events := e.events.journal
    (∀ id, e.instances.contains id = true ↔
      Stands (Event.Creates id) (Event.Removes id) events) ∧
    (∀ id, (∃ c ∈ e.graph.all, c.id = id) ↔
      Stands (Event.Connects id) (Event.Disconnects id) events) ∧
    (∀ id behavior owner,
      (∃ a ∈ e.behaviors.applied, a.id = id ∧ a.behavior = behavior ∧ a.component = owner) ↔
        Stands (Event.Applies id behavior owner)
          (fun event => event.Unapplies id ∨ event.Removes owner) events) ∧
    (disconnected events).Nodup ∧
    ∀ before event after, events = before ++ event :: after → Carried before event after := by
  intro e events
  have hclosed : (Engine.observed config others).Closed :=
    ⟨.empty, fun _ h => absurd h List.not_mem_nil, fun _ h => absurd h List.not_mem_nil⟩
  have h : e.Journaled := (Journaled.observed config others).run hclosed ops
  have htells : e.ledger.Tells events := h.keeps.tells
  refine ⟨htells.instances, fun id => ?_, fun id behavior owner => ?_,
    (List.nodup_append.mp htells.issued.1).2.1, h.keeps.traffic⟩
  · exact Graph.mem_ids.symm.trans (htells.connections id)
  · rw [← htells.applications]
    simp [ledger, Applied.label]

end WidgetFlow.Engine
