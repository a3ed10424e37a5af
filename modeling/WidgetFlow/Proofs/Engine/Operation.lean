import WidgetFlow.Proofs.Engine.Emission

/-!
# What the operations of an engine do

One lemma for each operation that is no flow, which says which parts of the engine it changes and
when. Events are recorded along the way; since little depends on them, the lemmas that most others
use only say that some log of events results.

`EngineOp` lists the operations, and `Engine.perform` performs one of them, whatever it answers.

## Main results

* `removeInstance_eq`, `removeInstance_of_some`: what goes with a removed instance.
* `connect_cases`, `disconnect_cases`: what becomes of the connections.
* `applyBehavior_eq`, `removeBehavior_eq`: what becomes of the applied behaviors, with what is
  recorded; `applyBehavior_cases`, `removeBehavior_cases` leave this out.
* `Runs.sameSetup`: only registrations change how an engine is set up.
* `Runs.evolves`: whatever is done to an engine, a revision is given to one content only.
* `Numbered.runs`: every application has a number that was used up.
-/

namespace WidgetFlow

/-- Recording events changes nothing but the log. -/
theorem Engine.foldl_record {α : Type} (event : α → Event) (items : List α) (e : Engine) :
    items.foldl (fun e a => e.record (event a)) e =
      { e with events := items.foldl (fun log a => log.record (event a)) e.events } := by
  induction items generalizing e with
  | nil => rfl
  | cons a rest ih => exact ih (e.record (event a))

/-- The id of an application tells its number. -/
theorem BehaviorSystem.idOf_injective {m n : Nat} (h : idOf m = idOf n) : m = n := by
  have hlist := congrArg String.toList h
  exact toDigits_injective (by simpa [idOf, toString] using hlist)

/-! ### The operations -/

/-- An operation on an engine. -/
inductive EngineOp where
  | registerType (d : Definition)
  | registerBehavior (b : Behavior)
  | createInstance (kind : Kind) (id : String) (properties : Dict Value)
  | updateInstance (id : String) (u : InstanceUpdate)
  | removeInstance (id : String)
  | clear
  | connect (source target : Endpoint) (transform? : Option Transform)
  | connectNamed (source target : Endpoint) (name? : Option String)
  | disconnect (id : String)
  | autoConnect (components : List String)
  | call (call : Call)
  | setProperty (id key : String) (v : Value)
  | setStyle (id property : String) (v : Value)
  | addClass (id name : String)
  | removeClass (id name : String)
  | setHidden (id : String) (hidden : Bool)

/-- Whether an operation registers a definition or a behavior. -/
def EngineOp.registers : EngineOp → Bool
  | .registerType _ => true
  | .registerBehavior _ => true
  | _ => false

/-- Whether an operation is there to connect. -/
def EngineOp.connects : EngineOp → Bool
  | .connect _ _ _ => true
  | .connectNamed _ _ _ => true
  | .autoConnect _ => true
  | _ => false

namespace Engine

/-- The engine after an operation, whatever the operation answers. -/
def perform (e : Engine) : EngineOp → Engine
  | .registerType d => e.registerType d
  | .registerBehavior b => e.registerBehavior b
  | .createInstance kind id properties => (e.createInstance kind id properties).2
  | .updateInstance id u => (e.updateInstance id u).2
  | .removeInstance id => (e.removeInstance id).2
  | .clear => e.clear
  | .connect source target transform? => (e.connect source target transform?).2
  | .connectNamed source target name? => (e.connectNamed source target name?).2
  | .disconnect id => (e.disconnect id).2
  | .autoConnect components => (e.autoConnect components).2
  | .call call => call.run e
  | .setProperty id key v => (View.setProperty e id key v).2
  | .setStyle id property v => (View.setStyle e id property v).2
  | .addClass id name => (View.addClass e id name).2
  | .removeClass id name => (View.removeClass e id name).2
  | .setHidden id hidden => (View.setHidden e id hidden).2

variable {e : Engine} {id : String}

/-! ### Instances -/

/-- Creating an instance puts a new one into the store, if the kind has a definition. -/
theorem createInstance_cases (e : Engine) (kind : Kind) (id : String) (properties : Dict Value) :
    (e.types.get? kind = none ∧ e.createInstance kind id properties = (none, e)) ∨
    ∃ d events, e.types.get? kind = some d ∧
      e.createInstance kind id properties =
        (some (d.instantiate id (Dict.union d.defaults properties)).id,
          { e with
            instances := e.instances.register (d.instantiate id (Dict.union d.defaults properties))
            events }) := by
  rw [createInstance, Registry.instantiate]
  cases h : e.types.get? kind with
  | none => exact Or.inl ⟨rfl, rfl⟩
  | some d => exact Or.inr ⟨d, _, rfl, rfl⟩

/-- Updating an instance changes the store only. -/
theorem updateInstance_eq (e : Engine) (id : String) (u : InstanceUpdate) :
    ∃ events, (e.updateInstance id u).2 =
      { e with instances := (e.instances.update id u).2, events } := by
  rw [updateInstance]
  cases h : e.instances.get? id with
  | none =>
      have hu : e.instances.update id u = (false, e.instances) :=
        Store.mutate_of_get?_eq_none h
      rw [hu]
      exact ⟨e.events, rfl⟩
  | some i =>
      have hu : (e.instances.update id u).1 = true := by
        rw [Store.update, Store.mutate_fst]
        exact Store.contains_iff.mpr ⟨i, h⟩
      split
      · next hs => rw [hs] at hu; cases hu
      · next hs => rw [hs]; exact ⟨_, rfl⟩

/-- Removing an instance that is not there changes nothing. -/
theorem removeInstance_of_none (h : e.instances.get? id = none) :
    e.removeInstance id = (none, e) := by
  rw [removeInstance, Store.remove, h]

/-- An instance that is removed takes its connections and what is applied to it along, and this is
what is recorded: its connections in turn, and then the instance. -/
theorem removeInstance_eq {i : Instance} (h : e.instances.get? id = some i) :
    e.removeInstance id = (some i,
      { e with
        instances := (e.instances.remove id).2
        graph := (e.graph.removeFor id).2
        behaviors := (e.behaviors.detachAll id).2
        events := ((e.graph.all.filter (·.touches id)).foldl (fun log c => log.record
          { kind := .connectionRemoved, component := id, connection? := some c.id })
            e.events).record { kind := .instanceRemoved, component := id } }) := by
  have hr : e.instances.remove id = (some i, (e.instances.remove id).2) :=
    Prod.ext (Store.remove_fst.trans h) rfl
  rw [removeInstance, hr]
  simp only [foldl_record]
  rfl

/-- An instance that is removed takes its connections and what is applied to it along. -/
theorem removeInstance_of_some {i : Instance} (h : e.instances.get? id = some i) :
    ∃ events, e.removeInstance id = (some i,
      { e with
        instances := (e.instances.remove id).2
        graph := (e.graph.removeFor id).2
        behaviors := (e.behaviors.detachAll id).2
        events }) :=
  ⟨_, removeInstance_eq h⟩

/-! ### Connections -/

/-- A point that passes the check belongs to an instance. -/
theorem contains_of_checkPoint {p : Endpoint} (h : e.checkPoint p = .ok ()) :
    e.instances.contains p.component = true := by
  rw [checkPoint] at h
  split at h
  · exact nomatch h
  · next hc => simpa using hc

/-- Connecting either changes nothing or adds one connection, between instances that are there. -/
theorem connect_cases (e : Engine) (source target : Endpoint) (transform? : Option Transform) :
    (e.connect source target transform?).2 = e ∨
    e.instances.contains source.component = true ∧
      e.instances.contains target.component = true ∧
      ∃ events, (e.connect source target transform?).2 =
        { e with graph := (e.graph.connect source target transform?).2, events } := by
  rw [connect]
  split
  · exact Or.inl rfl
  · exact Or.inl rfl
  · next hs ht =>
      exact Or.inr ⟨contains_of_checkPoint hs, contains_of_checkPoint ht, _, rfl⟩

/-- Disconnecting changes the connections only. -/
theorem disconnect_cases (e : Engine) (id : String) :
    ∃ events, (e.disconnect id).2 = { e with graph := (e.graph.disconnect id).2, events } := by
  rw [disconnect]
  rcases e.graph.disconnect id with ⟨removed, graph⟩
  cases e.graph.get? id with
  | none => exact ⟨e.events, rfl⟩
  | some c =>
      cases removed with
      | false => exact ⟨e.events, rfl⟩
      | true => exact ⟨_, rfl⟩

/-- Connecting automatically is connecting what is proposed, one after the other. -/
theorem autoConnect_snd (e : Engine) (components : List String) :
    (e.autoConnect components).2 = (e.proposals components).foldl
      (fun e p => (e.connectNamed p.source p.target p.transform?).2) e := by
  refine (List.foldl_hom Prod.snd fun r p => ?_).symm
  obtain ⟨created, e⟩ := r
  simp only
  rcases e.connectNamed p.source p.target p.transform? with ⟨result, e'⟩
  cases result with
  | error err => rfl
  | ok id => rfl

/-! ### Behaviors -/

/-- Applying a behavior either changes nothing or adds one application, to an instance that is
there, and records it; what the hook asks for then flows. -/
theorem applyBehavior_eq (e : Engine) (component behavior : String) (options : BehaviorOptions) :
    (e.applyBehavior component behavior options).2 = e ∨
    e.instances.contains component = true ∧
      ∃ found, e.behaviors.get? behavior = some found ∧
        let hook := found.onAttach (.of e.instances component) (options.seed found.defaults)
        let id := BehaviorSystem.idOf e.behaviors.next
        (e.applyBehavior component behavior options).2 =
          applyOutcomeBy emitSilently
            { e with
              behaviors := { e.behaviors with
                applied := e.behaviors.applied ++ [⟨id, behavior, component, hook.1⟩]
                next := e.behaviors.next + 1 }
              events := e.events.record
                { kind := .behaviorApplied, component
                  payload := .obj [("appliedId", .str id), ("behavior", .str behavior)] } }
            ⟨component, hook.2⟩ := by
  rw [applyBehavior, BehaviorSystem.apply]
  cases hb : e.behaviors.get? behavior with
  | none => exact Or.inl rfl
  | some found =>
      cases hi : e.instances.get? component with
      | none => exact Or.inl rfl
      | some i =>
          by_cases ha : found.compatibility.allows i.kind = true
          · simp only [ha, if_true]
            exact Or.inr ⟨Store.contains_iff.mpr ⟨i, hi⟩, found, rfl, rfl⟩
          · simp only [ha]
            exact Or.inl rfl

/-- Applying a behavior either changes nothing or adds one application, to an instance that is
there; what the hook asks for then flows. -/
theorem applyBehavior_cases (e : Engine) (component behavior : String)
    (options : BehaviorOptions) :
    (e.applyBehavior component behavior options).2 = e ∨
    e.instances.contains component = true ∧
      ∃ found events, e.behaviors.get? behavior = some found ∧
        let hook := found.onAttach (.of e.instances component) (options.seed found.defaults)
        (e.applyBehavior component behavior options).2 =
          applyOutcomeBy emitSilently
            { e with
              behaviors := { e.behaviors with
                applied := e.behaviors.applied ++
                  [⟨BehaviorSystem.idOf e.behaviors.next, behavior, component, hook.1⟩]
                next := e.behaviors.next + 1 }
              events } ⟨component, hook.2⟩ := by
  rcases e.applyBehavior_eq component behavior options with heq | ⟨howner, found, hfound, heq⟩
  · exact Or.inl heq
  · exact Or.inr ⟨howner, found, _, hfound, heq⟩

/-- Removing an applied behavior either changes nothing or drops the application and records this;
what the hook asks for then flows. -/
theorem removeBehavior_eq (e : Engine) (id : String) :
    (e.removeBehavior id).2 = e ∨
    ∃ outcome, (e.removeBehavior id).2 =
      applyOutcomeBy emitSilently
        { e with
          behaviors := { e.behaviors with
            applied := e.behaviors.applied.filter (·.id != id) }
          events := e.events.record
            { kind := .behaviorRemoved, component := outcome.component
              payload := .obj [("appliedId", .str id)] } } outcome := by
  rw [removeBehavior, BehaviorSystem.unapply]
  cases e.behaviors.applied.find? (·.id = id) with
  | none => exact Or.inl rfl
  | some a => exact Or.inr ⟨_, rfl⟩

/-- Removing an applied behavior either changes nothing or drops the application; what the hook asks
for then flows. -/
theorem removeBehavior_cases (e : Engine) (id : String) :
    (e.removeBehavior id).2 = e ∨
    ∃ outcome events, (e.removeBehavior id).2 =
      applyOutcomeBy emitSilently
        { e with
          behaviors := { e.behaviors with
            applied := e.behaviors.applied.filter (·.id != id) }
          events } outcome := by
  rcases e.removeBehavior_eq id with heq | ⟨outcome, heq⟩
  · exact Or.inl heq
  · exact Or.inr ⟨outcome, _, heq⟩

/-! ### Runs -/

/-- The second engine comes from the first by operations and flows in any order; only a free run
registers anything. -/
inductive Runs (free : Bool) : Engine → Engine → Prop
  | refl (e : Engine) : Runs free e e
  | perform {e e' : Engine} (h : Runs free e e') (op : EngineOp)
      (hop : op.registers = true → free = true) : Runs free e (e'.perform op)
  | flow {e e' e'' : Engine} (h : Runs free e e') (hf : Flows e' e'') : Runs free e e''

variable {e' e'' : Engine} {free : Bool}

/-- A run after a run is a run. -/
theorem Runs.trans (h : Runs free e e') (h' : Runs free e' e'') : Runs free e e'' := by
  induction h' with
  | refl => exact h
  | perform _ op hop ih => exact ih.perform op hop
  | flow _ hf ih => exact ih.flow hf

/-- One operation is a run. -/
theorem Runs.of_perform (e : Engine) (op : EngineOp) (hop : op.registers = true → free = true) :
    Runs free e (e.perform op) :=
  (Runs.refl e).perform op hop

/-- Runs for the items of a list in turn are a run. -/
theorem Runs.foldl {α : Type} {f : Engine → α → Engine} (hf : ∀ e a, Runs free e (f e a))
    (items : List α) (e : Engine) : Runs free e (items.foldl f e) :=
  List.foldlRecOn items f (.refl e) fun _ h a _ => h.trans (hf _ a)

/-- The second engine comes from the first by operations that neither register nor connect. -/
inductive Rearranges : Engine → Engine → Prop
  | refl (e : Engine) : Rearranges e e
  | perform {e e' : Engine} (h : Rearranges e e') (op : EngineOp)
      (hop : op.registers = false ∧ op.connects = false) : Rearranges e (e'.perform op)

namespace Rearranges

/-- One operation that neither registers nor connects. -/
theorem of_perform (e : Engine) (op : EngineOp)
    (hop : op.registers = false ∧ op.connects = false) : Rearranges e (e.perform op) :=
  (Rearranges.refl e).perform op hop

/-- Operations after operations. -/
theorem trans (h : Rearranges e e') (h' : Rearranges e' e'') : Rearranges e e'' := by
  induction h' with
  | refl => exact h
  | perform _ op hop ih => exact ih.perform op hop

/-- Operations for the items of a list in turn. -/
theorem foldl {α : Type} {f : Engine → α → Engine} (hf : ∀ e a, Rearranges e (f e a))
    (items : List α) (e : Engine) : Rearranges e (items.foldl f e) :=
  List.foldlRecOn items f (.refl e) fun _ h a _ => h.trans (hf _ a)

/-- Operations that neither register nor connect are a run, whether or not it is free. -/
theorem runs (h : Rearranges e e') : Runs free e e' := by
  induction h with
  | refl => exact .refl _
  | perform _ op hop ih => exact ih.perform op fun hreg => nomatch hop.1.symm.trans hreg

end Rearranges

/-! ### What is set up -/

/-- Two engines have the same settings, the same aliases, the same types and the same behaviors. -/
structure SameSetup (e e' : Engine) : Prop where
  config : e'.config = e.config
  aliases : e'.aliases = e.aliases
  types : e'.types = e.types
  behaviors : e'.behaviors.behaviors = e.behaviors.behaviors

/-- An engine is set up as itself. -/
theorem SameSetup.refl (e : Engine) : e.SameSetup e := ⟨rfl, rfl, rfl, rfl⟩

/-- Being set up in the same way passes on. -/
theorem SameSetup.trans (h : e.SameSetup e') (h' : e'.SameSetup e'') : e.SameSetup e'' :=
  ⟨h'.config.trans h.config, h'.aliases.trans h.aliases, h'.types.trans h.types,
    h'.behaviors.trans h.behaviors⟩

/-- Tags stand for the same kinds in engines that are set up in the same way. -/
theorem SameSetup.kindOf (h : e.SameSetup e') : e'.kindOf = e.kindOf := by
  funext tag
  rw [Engine.kindOf, h.aliases, ← Engine.kindOf]

/-- A flow leaves the setup as it is. -/
theorem SameSetup.of_flows (h : Flows e e') : e.SameSetup e' :=
  ⟨h.config, h.aliases, h.types, h.behaviors⟩

/-- Removing an instance leaves the setup as it is. -/
theorem SameSetup.removeInstance (e : Engine) (id : String) :
    e.SameSetup (e.removeInstance id).2 := by
  cases h : e.instances.get? id with
  | none =>
      rw [removeInstance_of_none h]
      exact .refl e
  | some i =>
      obtain ⟨events, heq⟩ := removeInstance_of_some h
      rw [heq]
      exact ⟨rfl, rfl, rfl, rfl⟩

/-- Connecting leaves the setup as it is. -/
theorem SameSetup.connect (e : Engine) (source target : Endpoint) (transform? : Option Transform) :
    e.SameSetup (e.connect source target transform?).2 := by
  rcases e.connect_cases source target transform? with heq | ⟨-, -, events, heq⟩
  · rw [heq]
    exact .refl e
  · rw [heq]
    exact ⟨rfl, rfl, rfl, rfl⟩

/-- A call leaves the setup as it is. -/
theorem SameSetup.call (e : Engine) (call : Call) : e.SameSetup (call.run e) := by
  cases call with
  | emit source v => exact .of_flows (e.emit_flows source v)
  | sendInput target v => exact .of_flows (e.sendInput_flows target v)
  | applyEffects component effects => exact .of_flows (e.applyEffects_flows component effects)
  | applyBehavior component behavior options =>
      rw [Call.run]
      rcases e.applyBehavior_cases component behavior options with heq | ⟨-, found, events, -, heq⟩
      · rw [heq]
        exact .refl e
      · rw [heq]
        refine .trans ?_ (.of_flows (applyOutcomeBy_flows emitSilently_flows _ _))
        exact ⟨rfl, rfl, rfl, rfl⟩
  | removeBehavior id =>
      rw [Call.run]
      rcases e.removeBehavior_cases id with heq | ⟨outcome, events, heq⟩
      · rw [heq]
        exact .refl e
      · rw [heq]
        refine .trans ?_ (.of_flows (applyOutcomeBy_flows emitSilently_flows _ _))
        exact ⟨rfl, rfl, rfl, rfl⟩

/-- An operation that registers nothing leaves the setup as it is. -/
theorem SameSetup.perform (e : Engine) {op : EngineOp} (hop : op.registers = false) :
    e.SameSetup (e.perform op) := by
  cases op with
  | registerType d => exact nomatch hop
  | registerBehavior b => exact nomatch hop
  | createInstance kind id properties =>
      rcases e.createInstance_cases kind id properties with ⟨-, heq⟩ | ⟨d, events, -, heq⟩
      · rw [Engine.perform, heq]
        exact .refl e
      · rw [Engine.perform, heq]
        exact ⟨rfl, rfl, rfl, rfl⟩
  | updateInstance id u =>
      obtain ⟨events, heq⟩ := e.updateInstance_eq id u
      rw [Engine.perform, heq]
      exact ⟨rfl, rfl, rfl, rfl⟩
  | removeInstance id => exact .removeInstance e id
  | clear =>
      have hremoved : e.SameSetup
          (e.instances.ids.foldl (fun e id => (e.removeInstance id).2) e) :=
        List.foldlRecOn (motive := fun e' => e.SameSetup e') _ _ (.refl e)
          fun e' h id _ => h.trans (.removeInstance e' id)
      exact hremoved.trans ⟨rfl, rfl, rfl, rfl⟩
  | connect source target transform? => exact .connect e source target transform?
  | connectNamed source target name? => exact .connect e source target _
  | disconnect id =>
      obtain ⟨events, heq⟩ := e.disconnect_cases id
      rw [Engine.perform, heq]
      exact ⟨rfl, rfl, rfl, rfl⟩
  | autoConnect components =>
      rw [Engine.perform, autoConnect_snd]
      exact List.foldlRecOn (motive := fun e' => e.SameSetup e') _ _ (.refl e)
        fun e' h p _ => h.trans (.connect e' p.source p.target _)
  | call call => exact .call e call
  | setProperty id key v => exact ⟨rfl, rfl, rfl, rfl⟩
  | setStyle id property v => exact ⟨rfl, rfl, rfl, rfl⟩
  | addClass id name => exact ⟨rfl, rfl, rfl, rfl⟩
  | removeClass id name => exact ⟨rfl, rfl, rfl, rfl⟩
  | setHidden id hidden => exact ⟨rfl, rfl, rfl, rfl⟩

/-- A run that is not free leaves the setup as it is. -/
theorem Runs.sameSetup (h : Runs false e e') : e.SameSetup e' := by
  induction h with
  | refl => exact .refl _
  | perform _ op hop ih =>
      exact ih.trans (.perform _ (Bool.eq_false_iff.mpr fun hreg => nomatch hop hreg))
  | flow _ hf ih => exact ih.trans (.of_flows hf)

/-! ### Revisions -/

/-- Connecting leaves the instances alone. -/
theorem instances_connect (e : Engine) (source target : Endpoint) (transform? : Option Transform) :
    (e.connect source target transform?).2.instances = e.instances := by
  rcases e.connect_cases source target transform? with heq | ⟨-, -, events, heq⟩
  · rw [heq]
  · rw [heq]

/-- Connecting automatically leaves the instances alone. -/
theorem instances_autoConnect (e : Engine) (components : List String) :
    (e.autoConnect components).2.instances = e.instances := by
  rw [autoConnect_snd]
  exact List.foldlRecOn (motive := fun e' : Engine => e'.instances = e.instances) _ _ rfl
    fun e' h p _ => (e'.instances_connect ..).trans h

/-- What a hook asks for only writes to the instances, whatever else the call of it changed. -/
theorem writes_applyOutcome (h : e'.instances = e.instances) (o : HookOutcome) :
    e.instances.Writes (applyOutcomeBy emitSilently e' o).instances :=
  h ▸ (applyOutcomeBy_flows emitSilently_flows e' o).writes

/-- A call only writes to the instances. -/
theorem writes_call (e : Engine) (call : Call) : e.instances.Writes (call.run e).instances := by
  cases call with
  | emit source v => exact (e.emit_flows source v).writes
  | sendInput target v => exact (e.sendInput_flows target v).writes
  | applyEffects component effects => exact (e.applyEffects_flows component effects).writes
  | applyBehavior component behavior options =>
      rw [Call.run]
      rcases e.applyBehavior_cases component behavior options with heq | ⟨-, found, events, -, heq⟩
      · rw [heq]
        exact .refl _
      · rw [heq]
        refine writes_applyOutcome ?_ _
        rfl
  | removeBehavior id =>
      rw [Call.run]
      rcases e.removeBehavior_cases id with heq | ⟨outcome, events, heq⟩
      · rw [heq]
        exact .refl _
      · rw [heq]
        refine writes_applyOutcome ?_ _
        rfl

/-- Removing an instance takes no tick. -/
theorem evolves_removeInstance (e : Engine) (id : String) :
    e.instances.Evolves (e.removeInstance id).2.instances := by
  cases h : e.instances.get? id with
  | none =>
      rw [removeInstance_of_none h]
      exact .refl _
  | some i =>
      obtain ⟨events, heq⟩ := removeInstance_of_some h
      rw [heq]
      exact .remove _ id

/-- Every operation takes a tick for each instance that it makes or changes. -/
theorem evolves_perform (e : Engine) (op : EngineOp) :
    e.instances.Evolves (e.perform op).instances := by
  cases op with
  | registerType d => exact .refl _
  | registerBehavior b => exact .refl _
  | createInstance kind id properties =>
      rcases e.createInstance_cases kind id properties with ⟨-, heq⟩ | ⟨d, events, -, heq⟩
      · rw [perform, heq]
        exact .refl _
      · rw [perform, heq]
        exact .register _ _
  | updateInstance id u =>
      obtain ⟨events, heq⟩ := e.updateInstance_eq id u
      rw [perform, heq]
      exact .mutate _ id _
  | removeInstance id => exact e.evolves_removeInstance id
  | clear =>
      exact List.foldlRecOn (motive := fun e' : Engine => e.instances.Evolves e'.instances) _ _
        (.refl _) fun e' h id _ => h.trans (e'.evolves_removeInstance id)
  | connect source target transform? =>
      rw [perform, instances_connect]
      exact .refl _
  | connectNamed source target name? =>
      rw [perform, connectNamed, instances_connect]
      exact .refl _
  | disconnect id =>
      obtain ⟨events, heq⟩ := e.disconnect_cases id
      rw [perform, heq]
      exact .refl _
  | autoConnect components =>
      rw [perform, instances_autoConnect]
      exact .refl _
  | call call => exact .of_writes (e.writes_call call)
  | setProperty id key v => exact .of_writes .of_setProperty
  | setStyle id property v => exact .of_writes .of_present
  | addClass id name => exact .of_writes .of_present
  | removeClass id name => exact .of_writes .of_present
  | setHidden id hidden => exact .of_writes .of_present

/-- Every run takes a tick for each instance that it makes or changes. -/
theorem Runs.evolves (h : Runs free e e') : e.instances.Evolves e'.instances := by
  induction h with
  | refl => exact .refl _
  | perform _ op _ ih => exact ih.trans (evolves_perform _ op)
  | flow _ hf ih => exact ih.trans (.of_writes hf.writes)

/-! ### Numbers of applications -/

/-- Every application has a number that was used up. -/
def Numbered (e : Engine) : Prop :=
  ∀ a ∈ e.behaviors.applied, ∃ n < e.behaviors.next, a.id = BehaviorSystem.idOf n

/-- An engine stays numbered if nothing is applied. -/
theorem Numbered.mono (h : e.Numbered) (hnext : e.behaviors.next ≤ e'.behaviors.next)
    (happlied : ∀ a ∈ e'.behaviors.applied, ∃ a' ∈ e.behaviors.applied, a'.id = a.id) :
    e'.Numbered := by
  intro a ha
  obtain ⟨a', ha', heq⟩ := happlied a ha
  obtain ⟨n, hn, hid⟩ := h a' ha'
  exact ⟨n, Nat.lt_of_lt_of_le hn hnext, heq.symm.trans hid⟩

/-- A flow keeps an engine numbered. -/
theorem Numbered.flows (h : e.Numbered) (hf : Flows e e') : e'.Numbered :=
  h.mono (Nat.le_of_eq hf.next.symm) fun _ ha =>
    let ⟨a', ha', hl⟩ := hf.exists_applied ha
    ⟨a', ha', congrArg (·.1) hl⟩

/-- Removing an instance keeps an engine numbered. -/
theorem Numbered.removeInstance (h : e.Numbered) (id : String) :
    (e.removeInstance id).2.Numbered := by
  cases hi : e.instances.get? id with
  | none =>
      rw [removeInstance_of_none hi]
      exact h
  | some i =>
      obtain ⟨events, heq⟩ := removeInstance_of_some hi
      rw [heq]
      exact h.mono (Nat.le_refl _) fun a ha => ⟨a, List.mem_of_mem_filter ha, rfl⟩

/-- Connecting keeps an engine numbered. -/
theorem Numbered.connect (h : e.Numbered) (source target : Endpoint)
    (transform? : Option Transform) : (e.connect source target transform?).2.Numbered := by
  rcases e.connect_cases source target transform? with heq | ⟨-, -, events, heq⟩
  · rwa [heq]
  · rw [heq]
    exact h

/-- A call keeps an engine numbered: an application takes the next number. -/
theorem Numbered.call (h : e.Numbered) (call : Call) : (call.run e).Numbered := by
  cases call with
  | emit source v => exact h.flows (e.emit_flows source v)
  | sendInput target v => exact h.flows (e.sendInput_flows target v)
  | applyEffects component effects => exact h.flows (e.applyEffects_flows component effects)
  | applyBehavior component behavior options =>
      rw [Call.run]
      rcases e.applyBehavior_cases component behavior options with heq | ⟨-, found, events, -, heq⟩
      · rwa [heq]
      · rw [heq]
        refine Numbered.flows (fun a ha => ?_) (applyOutcomeBy_flows emitSilently_flows _ _)
        rcases List.mem_append.mp ha with ha | ha
        · obtain ⟨n, hn, hid⟩ := h a ha
          exact ⟨n, Nat.lt_succ_of_lt hn, hid⟩
        · obtain rfl := List.mem_singleton.mp ha
          exact ⟨_, Nat.lt_succ_self _, rfl⟩
  | removeBehavior id =>
      rw [Call.run]
      rcases e.removeBehavior_cases id with heq | ⟨outcome, events, heq⟩
      · rwa [heq]
      · rw [heq]
        refine Numbered.flows ?_ (applyOutcomeBy_flows emitSilently_flows _ _)
        exact h.mono (Nat.le_refl _) fun a ha => ⟨a, List.mem_of_mem_filter ha, rfl⟩

/-- Every operation keeps an engine numbered. -/
theorem Numbered.perform (h : e.Numbered) (op : EngineOp) : (e.perform op).Numbered := by
  cases op with
  | createInstance kind id properties =>
      rcases e.createInstance_cases kind id properties with ⟨-, heq⟩ | ⟨d, events, -, heq⟩
      · rwa [Engine.perform, heq]
      · rw [Engine.perform, heq]
        exact h
  | updateInstance id u =>
      obtain ⟨events, heq⟩ := e.updateInstance_eq id u
      rw [Engine.perform, heq]
      exact h
  | removeInstance id => exact h.removeInstance id
  | clear => exact fun _ ha => absurd ha List.not_mem_nil
  | connect source target transform? => exact h.connect source target transform?
  | connectNamed source target name? => exact h.connect source target _
  | disconnect id =>
      obtain ⟨events, heq⟩ := e.disconnect_cases id
      rw [Engine.perform, heq]
      exact h
  | autoConnect components =>
      rw [Engine.perform, autoConnect_snd]
      exact List.foldlRecOn _ _ h fun _ he p _ => he.connect p.source p.target _
  | call call => exact h.call call
  | _ => exact h

/-- Every run keeps an engine numbered. -/
theorem Numbered.runs (h : e.Numbered) (hruns : Runs free e e') : e'.Numbered := by
  induction hruns with
  | refl => exact h
  | perform _ op _ ih => exact ih.perform op
  | flow _ hf ih => exact ih.flows hf

end Engine

end WidgetFlow
