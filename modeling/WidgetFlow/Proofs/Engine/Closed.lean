import WidgetFlow.Proofs.Engine.Operation

/-!
# No reference dangles

Instances, connections and applied behaviors are kept in three places. `Engine.Closed` says that
they agree: every connection leads between instances that are there, every applied behavior belongs
to one, and every instance stands under its own id. An engine starts closed, each operation keeps
it so, and so does every run of operations.

Most operations need no argument of their own: `Closed.mono` covers all that keep the instances that
are there and neither connect nor apply anything, flows among them.

## Main results

* `Closed.perform`: every operation keeps an engine closed.
* `no_dangling_references`: after every run of operations on a new engine, nothing refers to an
  instance that is not there, and a removed instance leaves no reference behind.
-/

namespace WidgetFlow.Engine

variable {e e' : Engine} {id : String}

/-- Instances, connections and applied behaviors agree. -/
structure Closed (e : Engine) : Prop where
  indexed : e.instances.Indexed
  /-- Both ends of a connection are there. -/
  ends : ∀ c ∈ e.graph.all,
    e.instances.contains c.source.component = true ∧
      e.instances.contains c.target.component = true
  /-- The owner of an applied behavior is there. -/
  owners : ∀ a ∈ e.behaviors.applied, e.instances.contains a.component = true

/-- A new engine is closed. -/
theorem Closed.new (config : Config) : (Engine.new config).Closed :=
  ⟨.empty, fun _ h => absurd h List.not_mem_nil, fun _ h => absurd h List.not_mem_nil⟩

/-- An engine stays closed if it keeps its instances, connects nothing and applies nothing. -/
theorem Closed.mono (h : e.Closed) (hi : e'.instances.Indexed)
    (hlive : ∀ id, e.instances.contains id = true → e'.instances.contains id = true)
    (hgraph : ∀ c ∈ e'.graph.all, c ∈ e.graph.all)
    (happlied : ∀ a ∈ e'.behaviors.applied,
      ∃ a' ∈ e.behaviors.applied, a'.component = a.component) : e'.Closed := by
  refine ⟨hi, fun c hc => ?_, fun a ha => ?_⟩
  · obtain ⟨hsource, htarget⟩ := h.ends c (hgraph c hc)
    exact ⟨hlive _ hsource, hlive _ htarget⟩
  · obtain ⟨a', ha', heq⟩ := happlied a ha
    exact heq ▸ hlive _ (h.owners a' ha')

/-- No connection touches a component. -/
def Quiet (e : Engine) (id : String) : Prop := ∀ c ∈ e.graph.all, c.touches id = false

/-- In a closed engine no connection touches what is not there. -/
theorem Closed.quiet (h : e.Closed) (hid : e.instances.get? id = none) : e.Quiet id := by
  intro c hc
  obtain ⟨hsource, htarget⟩ := h.ends c hc
  have hgone := Store.contains_eq_false_iff.mpr hid
  have hs : c.source.component ≠ id := fun heq => by simp [heq, hgone] at hsource
  have ht : c.target.component ≠ id := fun heq => by simp [heq, hgone] at htarget
  simp [Connection.touches, hs, ht]

/-- In a closed engine nothing is applied to what is not there. -/
theorem Closed.attached_eq_nil (h : e.Closed) (hid : e.instances.get? id = none) :
    e.behaviors.attached id = [] := by
  refine List.filter_eq_nil_iff.mpr fun a ha => ?_
  rw [decide_eq_true_iff]
  rintro rfl
  have howner := h.owners a ha
  rw [Store.contains_eq_false_iff.mpr hid] at howner
  exact nomatch howner

/-- A flow keeps an engine closed. -/
theorem Closed.flows (h : e.Closed) (hf : Flows e e') : e'.Closed := by
  refine h.mono (hf.writes.indexed h.indexed) (fun id hid => ?_) (fun c hc => ?_) fun a ha => ?_
  · rw [hf.writes.contains, hid]
  · rwa [hf.graph] at hc
  · obtain ⟨a', ha', hl⟩ := hf.exists_applied ha
    exact ⟨a', ha', congrArg (·.2.2) hl⟩

/-! ### Instances -/

/-- Creating an instance keeps an engine closed, also in place of an earlier one. -/
theorem Closed.createInstance (h : e.Closed) (kind : Kind) (id : String)
    (properties : Dict Value) : (e.createInstance kind id properties).2.Closed := by
  rcases e.createInstance_cases kind id properties with ⟨-, heq⟩ | ⟨d, events, -, heq⟩
  · rwa [heq]
  · rw [heq]
    refine h.mono (h.indexed.register _) (fun key hkey => ?_) (fun _ hc => hc)
      fun a ha => ⟨a, ha, rfl⟩
    exact Dict.contains_insert.trans (by rw [Bool.or_eq_true]; exact Or.inr hkey)

/-- Updating an instance keeps an engine closed. -/
theorem Closed.updateInstance (h : e.Closed) (id : String) (u : InstanceUpdate) :
    (e.updateInstance id u).2.Closed := by
  obtain ⟨events, heq⟩ := e.updateInstance_eq id u
  rw [heq]
  refine h.mono (h.indexed.mutate fun _ => rfl) (fun key hkey => ?_) (fun _ hc => hc)
    fun a ha => ⟨a, ha, rfl⟩
  exact Store.contains_mutate.trans hkey

/-- The connections that are left when an instance is removed. -/
theorem graph_removeInstance (h : e.Closed) (id : String) :
    (e.removeInstance id).2.graph.all = e.graph.all.filter fun c => !c.touches id := by
  cases hi : e.instances.get? id with
  | none =>
      rw [removeInstance_of_none hi]
      -- a connection at the missing instance would contradict that the engine is closed
      exact (List.filter_eq_self.mpr fun c hc => by rw [h.quiet hi c hc, Bool.not_false]).symm
  | some i =>
      obtain ⟨events, heq⟩ := removeInstance_of_some hi
      rw [heq]
      exact Graph.all_removeFor id

/-- What is left of the applied behaviors when an instance is removed. -/
theorem applied_removeInstance (h : e.Closed) (id : String) :
    (e.removeInstance id).2.behaviors.applied =
      e.behaviors.applied.filter (·.component != id) := by
  cases hi : e.instances.get? id with
  | none =>
      rw [removeInstance_of_none hi]
      refine (List.filter_eq_self.mpr fun a ha => ?_).symm
      have howner := h.owners a ha
      have hne : a.component ≠ id := fun heq => by
        simp [heq, Store.contains_eq_false_iff.mpr hi] at howner
      simp [hne]
  | some i =>
      obtain ⟨events, heq⟩ := removeInstance_of_some hi
      rw [heq]
      rfl

/-- The instances that are left when one is removed. -/
theorem instances_removeInstance (e : Engine) (id : String) :
    (e.removeInstance id).2.instances = (e.instances.remove id).2 := by
  cases hi : e.instances.get? id with
  | none => rw [removeInstance_of_none hi, Store.remove, hi]
  | some i =>
      obtain ⟨events, heq⟩ := removeInstance_of_some hi
      rw [heq]

/-- Removing an instance keeps an engine closed: what touches it goes with it. -/
theorem Closed.removeInstance (h : e.Closed) (id : String) : (e.removeInstance id).2.Closed := by
  have hlive : ∀ key, key ≠ id → e.instances.contains key = true →
      (e.removeInstance id).2.instances.contains key = true := by
    intro key hne hkey
    rw [instances_removeInstance, ← hkey]
    refine Store.contains_congr ?_
    rw [Store.get?_remove h.indexed.sorted, if_neg (Ne.symm hne)]
  refine ⟨?_, fun c hc => ?_, fun a ha => ?_⟩
  · rw [instances_removeInstance]
    exact h.indexed.remove
  · rw [graph_removeInstance h, List.mem_filter] at hc
    obtain ⟨hc, htouch⟩ := hc
    have hne : c.source.component ≠ id ∧ c.target.component ≠ id := by
      simpa [Connection.touches] using htouch
    obtain ⟨hsource, htarget⟩ := h.ends c hc
    exact ⟨hlive _ hne.1 hsource, hlive _ hne.2 htarget⟩
  · rw [applied_removeInstance h, List.mem_filter] at ha
    exact hlive _ (by simpa using ha.2) (h.owners a ha.1)

/-- Removing instances one after the other keeps an engine closed. -/
theorem Closed.removeInstances (h : e.Closed) (ids : List String) :
    (ids.foldl (fun e id => (e.removeInstance id).2) e).Closed :=
  List.foldlRecOn ids _ h fun _ h id _ => h.removeInstance id

/-- Instances that are removed in turn are gone, and the others stay. -/
theorem get?_removeInstances (h : e.Closed) (ids : List String) (key : String) :
    (ids.foldl (fun e id => (e.removeInstance id).2) e).instances.get? key =
      if key ∈ ids then none else e.instances.get? key := by
  induction ids generalizing e with
  | nil => rw [if_neg List.not_mem_nil, List.foldl_nil]
  | cons id rest ih =>
      rw [List.foldl_cons, ih (h.removeInstance id), instances_removeInstance,
        Store.get?_remove h.indexed.sorted]
      by_cases hkey : key ∈ rest
      · rw [if_pos hkey, if_pos (List.mem_cons_of_mem id hkey)]
      · rw [if_neg hkey]
        by_cases hid : id = key
        · rw [if_pos hid, if_pos (hid ▸ List.mem_cons_self)]
        · rw [if_neg hid, if_neg fun hmem => (List.mem_cons.mp hmem).elim (hid ∘ Eq.symm) hkey]

/-- The connections that are left when instances are removed are those that touch none of them. -/
theorem graph_removeInstances (h : e.Closed) (ids : List String) :
    (ids.foldl (fun e id => (e.removeInstance id).2) e).graph.all =
      e.graph.all.filter fun c => !ids.any c.touches := by
  induction ids generalizing e with
  | nil => exact (List.filter_eq_self.mpr fun _ _ => rfl).symm
  | cons id rest ih =>
      rw [List.foldl_cons, ih (h.removeInstance id), graph_removeInstance h, List.filter_filter]
      refine List.filter_congr fun c _ => ?_
      rw [List.any_cons, Bool.not_or, Bool.and_comm]

/-- What is left of the applied behaviors when instances are removed belongs to none of them. -/
theorem applied_removeInstances (h : e.Closed) (ids : List String) :
    (ids.foldl (fun e id => (e.removeInstance id).2) e).behaviors.applied =
      e.behaviors.applied.filter fun a => !ids.contains a.component := by
  induction ids generalizing e with
  | nil => exact (List.filter_eq_self.mpr fun _ _ => rfl).symm
  | cons id rest ih =>
      rw [List.foldl_cons, ih (h.removeInstance id), applied_removeInstance h, List.filter_filter]
      refine List.filter_congr fun a _ => ?_
      rw [List.contains_cons, Bool.not_or, Bool.and_comm]
      rfl

/-- Removing instances takes no tick. -/
theorem clock_removeInstances (ids : List String) (e : Engine) :
    (ids.foldl (fun e id => (e.removeInstance id).2) e).instances.clock = e.instances.clock :=
  List.foldlRecOn (motive := fun e' : Engine => e'.instances.clock = e.instances.clock) ids _ rfl
    fun e' h id _ => by rw [instances_removeInstance, Store.clock_remove, h]

/-- When all instances have been removed, none is left. -/
theorem get?_removeAll (h : e.Closed) (key : String) :
    (e.instances.ids.foldl (fun e id => (e.removeInstance id).2) e).instances.get? key = none := by
  rw [get?_removeInstances h]
  split
  · rfl
  · next hkey =>
      cases hi : e.instances.get? key with
      | none => rfl
      | some i => exact absurd (List.mem_map.mpr ⟨(key, i), Dict.mem_of_get? hi, rfl⟩) hkey

/-- Without instances nothing is connected and nothing is applied. -/
theorem Closed.eq_nil (h : e.Closed) (hgone : ∀ id, e.instances.get? id = none) :
    e.graph.all = [] ∧ e.behaviors.applied = [] := by
  refine ⟨List.eq_nil_iff_forall_not_mem.mpr fun c hc => ?_,
    List.eq_nil_iff_forall_not_mem.mpr fun a ha => ?_⟩
  · exact Bool.false_ne_true
      ((Store.contains_eq_false_iff.mpr (hgone _)).symm.trans (h.ends c hc).1)
  · exact Bool.false_ne_true
      ((Store.contains_eq_false_iff.mpr (hgone _)).symm.trans (h.owners a ha))

/-- Clearing an engine keeps it closed. -/
theorem Closed.clear (h : e.Closed) : e.clear.Closed :=
  ⟨(h.removeInstances e.instances.ids).indexed, fun _ hc => absurd hc List.not_mem_nil,
    fun _ ha => absurd ha List.not_mem_nil⟩

/-! ### Connections -/

/-- Connecting keeps an engine closed, since both ends are looked for. -/
theorem Closed.connect (h : e.Closed) (source target : Endpoint) (transform? : Option Transform) :
    (e.connect source target transform?).2.Closed := by
  rcases e.connect_cases source target transform? with heq | ⟨hsource, htarget, events, heq⟩
  · rwa [heq]
  · rw [heq]
    refine ⟨h.indexed, fun c hc => ?_, h.owners⟩
    rw [Graph.all_connect, List.mem_append, List.mem_singleton] at hc
    rcases hc with hc | rfl
    · exact h.ends c hc
    · exact ⟨hsource, htarget⟩

/-- Disconnecting keeps an engine closed. -/
theorem Closed.disconnect (h : e.Closed) (id : String) : (e.disconnect id).2.Closed := by
  obtain ⟨events, heq⟩ := e.disconnect_cases id
  rw [heq]
  exact h.mono h.indexed (fun _ hid => hid) (fun _ hc => Graph.mem_of_mem_disconnect hc)
    fun a ha => ⟨a, ha, rfl⟩

/-- Connecting automatically keeps an engine closed. -/
theorem Closed.autoConnect (h : e.Closed) (components : List String) :
    (e.autoConnect components).2.Closed := by
  rw [autoConnect_snd]
  exact List.foldlRecOn _ _ h fun e he p _ => he.connect p.source p.target _

/-! ### Behaviors -/

/-- A call keeps an engine closed, whatever it emits. -/
theorem Closed.call (h : e.Closed) (call : Call) : (call.run e).Closed := by
  cases call with
  | emit source v => exact h.flows (e.emit_flows source v)
  | sendInput target v => exact h.flows (e.sendInput_flows target v)
  | applyEffects component effects => exact h.flows (e.applyEffects_flows component effects)
  | applyBehavior component behavior options =>
      rw [Call.run]
      rcases e.applyBehavior_cases component behavior options with
        heq | ⟨howner, found, events, -, heq⟩
      · rwa [heq]
      · rw [heq]
        refine Closed.flows ?_ (applyOutcomeBy_flows emitSilently_flows _ _)
        refine ⟨h.indexed, h.ends, fun a ha => ?_⟩
        rcases List.mem_append.mp ha with ha | ha
        · exact h.owners a ha
        · obtain rfl := List.mem_singleton.mp ha
          exact howner
  | removeBehavior id =>
      rw [Call.run]
      rcases e.removeBehavior_cases id with heq | ⟨outcome, events, heq⟩
      · rwa [heq]
      · rw [heq]
        refine Closed.flows ?_ (applyOutcomeBy_flows emitSilently_flows _ _)
        exact ⟨h.indexed, h.ends, fun a ha => h.owners a (List.mem_of_mem_filter ha)⟩

/-! ### Runs -/

/-- Every operation keeps an engine closed. -/
theorem Closed.perform (h : e.Closed) (op : EngineOp) : (e.perform op).Closed := by
  cases op with
  | registerType d => exact ⟨h.indexed, h.ends, h.owners⟩
  | registerBehavior b => exact ⟨h.indexed, h.ends, h.owners⟩
  | createInstance kind id properties => exact h.createInstance kind id properties
  | updateInstance id u => exact h.updateInstance id u
  | removeInstance id => exact h.removeInstance id
  | clear => exact h.clear
  | connect source target transform? => exact h.connect source target transform?
  | connectNamed source target name? => exact h.connect source target _
  | disconnect id => exact h.disconnect id
  | autoConnect components => exact h.autoConnect components
  | call call => exact h.call call
  | setProperty id key v => exact h.flows ((Flows.refl e).write .of_setProperty)
  | setStyle id property v => exact h.flows ((Flows.refl e).write .of_present)
  | addClass id name => exact h.flows ((Flows.refl e).write .of_present)
  | removeClass id name => exact h.flows ((Flows.refl e).write .of_present)
  | setHidden id hidden => exact h.flows ((Flows.refl e).write .of_present)

/-- Operations and flows in any order keep an engine closed. -/
theorem Closed.runs {free : Bool} (h : e.Closed) (hruns : Runs free e e') : e'.Closed := by
  induction hruns with
  | refl => exact h
  | perform _ op _ ih => exact ih.perform op
  | flow _ hf ih => exact ih.flows hf

/-- Every run of operations keeps an engine closed. -/
theorem Closed.run (h : e.Closed) (ops : List EngineOp) : (ops.foldl Engine.perform e).Closed :=
  List.foldlRecOn ops Engine.perform h fun _ h op _ => h.perform op

/-- **No reference dangles.** After every run of operations on a new engine, both ends of every
connection and the owner of every applied behavior are there, every instance stands under its own
id, and when an instance is removed then no connection touches it and no behavior is applied to it
any more. -/
theorem no_dangling_references (config : Config) (ops : List EngineOp) :
    let e := ops.foldl Engine.perform (Engine.new config)
    (∀ c ∈ e.graph.all,
      e.instances.contains c.source.component = true ∧
        e.instances.contains c.target.component = true) ∧
    (∀ a ∈ e.behaviors.applied, e.instances.contains a.component = true) ∧
    (∀ entry ∈ e.instances.instances, entry.2.id = entry.1) ∧
    ∀ id,
      (∀ c ∈ (e.removeInstance id).2.graph.all, c.touches id = false) ∧
      (∀ a ∈ (e.removeInstance id).2.behaviors.applied, a.component ≠ id) := by
  intro e
  have h : e.Closed := (Closed.new config).run ops
  refine ⟨h.ends, h.owners, h.indexed.keyed, fun id => ⟨fun c hc => ?_, fun a ha => ?_⟩⟩
  · rw [graph_removeInstance h, List.mem_filter] at hc
    simpa using hc.2
  · rw [applied_removeInstance h, List.mem_filter] at ha
    simpa using ha.2

end WidgetFlow.Engine
