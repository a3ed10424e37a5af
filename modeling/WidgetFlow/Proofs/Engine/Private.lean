import WidgetFlow.Proofs.Engine.Account

/-!
# Private states are private

The applications of all components stand in one list, several of one behavior may belong to one
component, and deliveries nest in the processing of other deliveries. All the same an application
changes by its own hook only, which runs once for each value that came to one of its inputs.

Every act on an engine leaves a trail, from which this is read off: `Heard.hooked` compares the
events of the act with what became of an application. Instances do not matter here, so that any of
them may be due.

## Main results

* `perform_trail`, `act_trail`: operations and handlers leave trails.
* `states_private`: in every state and for every act, private states are private.
-/

namespace WidgetFlow

namespace Engine

variable {act : Engine → Engine} {e : Engine} {events : List Event}

/-! ### Operations -/

/-- Any instance may be due. -/
abbrev Anyone (_ : String) : Prop := True

/-- What was recorded and what was heard make a trail. -/
theorem Trail.of_heard (hrecords : e.Records act events)
    (hheard : e.behaviors.Heard events (act e).behaviors) : Trail act e Anyone events :=
  ⟨hrecords, fun _ hdue => absurd trivial hdue, hheard⟩

/-- What leaves the behaviors alone and records nothing is heard by no application. -/
theorem Trail.silent (hsame : ∀ log, act (e.relog log) = (act e).relog log)
    (hbehaviors : (act e).behaviors = e.behaviors) : Trail act e Anyone [] := by
  refine .of_heard hsame ?_
  rw [hbehaviors]
  exact .refl e.behaviors

/-- What leaves the behaviors alone and then records an event that is no delivery is heard by no
application. -/
theorem Trail.noted (event : Event) (hevent : event.kind ≠ .connectionDataReceived)
    (hsame : ∀ log, act (e.relog log) = (act e).relog log)
    (hbehaviors : (act e).behaviors = e.behaviors) :
    Trail (fun e => (act e).record event) e Anyone [event] :=
  (Trail.silent hsame hbehaviors).trans (.record event hevent _ Anyone)

/-- Creating an instance is heard by no application. -/
theorem createInstance_trail (kind : Kind) (id : String) (properties : Dict Value) (e : Engine) :
    ∃ events, Trail (fun e => (e.createInstance kind id properties).2) e Anyone events := by
  cases hnew : e.types.instantiate kind id properties e.instances with
  | none =>
      refine ⟨[], (Trail.refl e _).congr fun log => ?_⟩
      simp only [createInstance, relog, hnew]
  | some p =>
      have hcreated : Trail (fun e => { e with instances := p.2 }.record
          { kind := .instanceCreated, component := p.1
            payload := .obj [("type", .str kind.tag)] }) e Anyone [_] :=
        .noted _ EventKind.noConfusion (fun _ => rfl) rfl
      refine ⟨_, hcreated.congr fun log => ?_⟩
      simp only [createInstance, relog, hnew]

/-- Updating an instance is heard by no application. -/
theorem updateInstance_trail (id : String) (u : InstanceUpdate) (e : Engine) :
    ∃ events, Trail (fun e => (e.updateInstance id u).2) e Anyone events := by
  rcases hupdate : e.instances.update id u with ⟨_ | _, s⟩
  · refine ⟨[], (Trail.refl e _).congr fun log => ?_⟩
    simp only [updateInstance, relog, hupdate]
  · have hupdated : Trail (fun e => { e with instances := s }.record
        { kind := .instanceUpdated, component := id }) e Anyone [_] :=
      .noted _ EventKind.noConfusion (fun _ => rfl) rfl
    refine ⟨_, hupdated.congr fun log => ?_⟩
    simp only [updateInstance, relog, hupdate]

/-- Removing an instance drops the applications of it, and the others hear nothing. -/
theorem removeInstance_trail (id : String) (e : Engine) :
    ∃ events, Trail (fun e => (e.removeInstance id).2) e Anyone events := by
  cases hi : e.instances.get? id with
  | none =>
      refine ⟨[], (Trail.refl e _).congr fun log => ?_⟩
      have hi' : (e.relog log).instances.get? id = none := hi
      rw [removeInstance_of_none hi']
  | some i =>
      refine ⟨(e.graph.all.filter (·.touches id)).map (fun c =>
          { kind := .connectionRemoved, component := id, connection? := some c.id }) ++
        [{ kind := .instanceRemoved, component := id }], .of_heard (fun log => ?_) ?_⟩
      · have hi' : (e.relog log).instances.get? id = some i := hi
        rw [removeInstance_eq hi, removeInstance_eq hi', EventLog.recordAll_append,
          EventLog.recordAll_map]
        rfl
      · rw [removeInstance_eq hi]
        refine .of_sublist rfl rfl (fun event hevent => ?_) List.filter_sublist
        obtain hevent | hevent := List.mem_append.mp hevent
        · obtain ⟨c, -, rfl⟩ := List.mem_map.mp hevent
          exact EventKind.noConfusion
        · obtain rfl := List.mem_singleton.mp hevent
          exact EventKind.noConfusion

/-- Clearing drops all applications. -/
theorem clear_trail (e : Engine) : ∃ events, Trail Engine.clear e Anyone events := by
  have hremove : ∀ id ∈ e.instances.ids, ∀ e, ∃ events,
      Trail (fun e => (e.removeInstance id).2) e Anyone events :=
    fun id _ => removeInstance_trail id
  obtain ⟨events, hremoved⟩ := Trail.foldl hremove e
  have hcleared : Trail (fun e : Engine =>
      { e with graph := e.graph.clear, behaviors := e.behaviors.clearApplied })
      (e.instances.ids.foldl (fun e id => (e.removeInstance id).2) e) Anyone [] :=
    .of_heard (fun _ => rfl) (.of_sublist rfl rfl nofun (List.nil_sublist _))
  exact ⟨_, (hremoved.trans hcleared).congr fun _ => rfl⟩

/-- Connecting is heard by no application. -/
theorem connect_trail (source target : Endpoint) (transform? : Option Transform) (e : Engine) :
    ∃ events, Trail (fun e => (e.connect source target transform?).2) e Anyone events := by
  have hcheck : ∀ log p, (e.relog log).checkPoint p = e.checkPoint p := fun _ _ => rfl
  cases hs : e.checkPoint source with
  | error err =>
      refine ⟨[], (Trail.refl e _).congr fun log => ?_⟩
      simp only [connect, hcheck, hs]
  | ok _ =>
      cases ht : e.checkPoint target with
      | error err =>
          refine ⟨[], (Trail.refl e _).congr fun log => ?_⟩
          simp only [connect, hcheck, hs, ht]
      | ok _ =>
          rcases hnew : e.graph.connect source target transform? with ⟨id, graph⟩
          have hconnected : Trail (fun e : Engine => { e with graph }.record
              { kind := .connectionCreated, component := source.component, connection? := some id
                payload := .obj [("sourcePoint", .str source.point),
                  ("targetId", .str target.component), ("targetPoint", .str target.point)] })
              e Anyone [_] :=
            .noted _ EventKind.noConfusion (fun _ => rfl) rfl
          have hnew' : ∀ log, (e.relog log).graph.connect source target transform? = (id, graph) :=
            fun _ => hnew
          refine ⟨_, hconnected.congr fun log => ?_⟩
          simp only [connect, hcheck, hs, ht, hnew']

/-- Disconnecting is heard by no application. -/
theorem disconnect_trail (id : String) (e : Engine) :
    ∃ events, Trail (fun e => (e.disconnect id).2) e Anyone events := by
  rcases hd : e.graph.disconnect id with ⟨removed, graph⟩
  have hsilent : Trail (fun e : Engine => { e with graph }) e Anyone [] :=
    .silent (fun _ => rfl) rfl
  cases hc : e.graph.get? id with
  | none =>
      refine ⟨[], hsilent.congr fun log => ?_⟩
      simp only [disconnect, relog, hd, hc]
  | some c =>
      cases removed with
      | false =>
          refine ⟨[], hsilent.congr fun log => ?_⟩
          simp only [disconnect, relog, hd, hc]
      | true =>
          have hdisconnected : Trail (fun e : Engine => { e with graph }.record
              { kind := .connectionRemoved, component := c.source.component
                connection? := some id }) e Anyone [_] :=
            .noted _ EventKind.noConfusion (fun _ => rfl) rfl
          refine ⟨_, hdisconnected.congr fun log => ?_⟩
          simp only [disconnect, relog, hd, hc]

/-- Connecting automatically is heard by no application. -/
theorem autoConnect_trail (components : List String) (e : Engine) :
    ∃ events, Trail (fun e => (e.autoConnect components).2) e Anyone events := by
  have hconnect : ∀ p ∈ e.proposals components, ∀ e, ∃ events,
      Trail (fun e => (e.connectNamed p.source p.target p.transform?).2) e Anyone events :=
    fun p _ => connect_trail p.source p.target (p.transform?.bind Transform.ofSpec?)
  obtain ⟨events, hconnected⟩ := Trail.foldl hconnect e
  refine ⟨events, hconnected.congr fun log => ?_⟩
  exact autoConnect_snd (e.relog log) components

/-- A call is heard by the applications that values come to. -/
theorem call_trail (call : Call) (e : Engine) :
    ∃ events, Trail (fun e => call.run e) e Anyone events := by
  cases call with
  | emit source v => exact (e.emitSilently_trail source v).imp fun _ h => h.weaken _
  | sendInput target v => exact (e.sendInput_trail target v).imp fun _ h => h.weaken _
  | applyEffects component effects =>
      exact (applyOutcomeBy_trail emitSilently_trail ⟨component, effects⟩ e).imp
        fun _ h => h.mono fun _ _ => .inl trivial
  | applyBehavior component behavior options =>
      rcases hb : e.behaviors.apply component behavior options e.instances with err | ⟨id, o, b⟩
      · refine ⟨[], (Trail.refl e _).congr fun log => ?_⟩
        simp only [Call.run, applyBehavior, relog, hb]
      · have happlied : Trail (fun e => { e with behaviors := b }.record
            { kind := .behaviorApplied, component
              payload := .obj [("appliedId", .str id), ("behavior", .str behavior)] }) e Anyone
            [_] :=
          .of_heard (fun _ => rfl) (.apply hb (List.forall_mem_singleton.mpr EventKind.noConfusion))
        obtain ⟨events, hflow⟩ := applyOutcomeBy_trail emitSilently_trail o _
        refine ⟨_, (happlied.trans (hflow.mono fun _ _ => .inl trivial)).congr fun log => ?_⟩
        simp only [Call.run, applyBehavior, relog, hb]
  | removeBehavior id =>
      rcases hb : e.behaviors.unapply id e.instances with err | ⟨o, b⟩
      · refine ⟨[], (Trail.refl e _).congr fun log => ?_⟩
        simp only [Call.run, removeBehavior, relog, hb]
      · have hremoved : Trail (fun e => { e with behaviors := b }.record
            { kind := .behaviorRemoved, component := o.component
              payload := .obj [("appliedId", .str id)] }) e Anyone [_] :=
          .of_heard (fun _ => rfl)
            (.unapply hb (List.forall_mem_singleton.mpr EventKind.noConfusion))
        obtain ⟨events, hflow⟩ := applyOutcomeBy_trail emitSilently_trail o _
        refine ⟨_, (hremoved.trans (hflow.mono fun _ _ => .inl trivial)).congr fun log => ?_⟩
        simp only [Call.run, removeBehavior, relog, hb]

/-- Writing to the instances is heard by no application. -/
theorem writing_quiet (write : Store → Bool × Store) (e : Engine) :
    ∃ events, Trail (fun e => (e.writing (write e.instances)).2) e Anyone events :=
  ⟨[], .silent (fun _ => rfl) rfl⟩

/-- Every operation leaves a trail, except that registering a behavior changes what is known of
behaviors. -/
theorem perform_trail (e : Engine) (op : EngineOp) (hop : ∀ b, op ≠ .registerBehavior b) :
    ∃ events, Trail (fun e => e.perform op) e Anyone events := by
  cases op with
  | registerType d =>
      have hregistered : Trail (fun e => { e with types := e.types.register d }.record
          { kind := .componentRegistered, component := d.kind.tag }) e Anyone [_] :=
        .noted _ EventKind.noConfusion (fun _ => rfl) rfl
      exact ⟨_, hregistered⟩
  | registerBehavior b => exact absurd rfl (hop b)
  | createInstance kind id properties => exact createInstance_trail kind id properties e
  | updateInstance id u => exact updateInstance_trail id u e
  | removeInstance id => exact removeInstance_trail id e
  | clear => exact clear_trail e
  | connect source target transform? => exact connect_trail source target transform? e
  | connectNamed source target name? => exact connect_trail source target _ e
  | disconnect id => exact disconnect_trail id e
  | autoConnect components => exact autoConnect_trail components e
  | call call => exact call_trail call e
  | setProperty id key v => exact writing_quiet (fun s => View.setProperty s id key v) e
  | setStyle id property v => exact writing_quiet (fun s => View.setStyle s id property v) e
  | addClass id name => exact writing_quiet (fun s => View.addClass s id name) e
  | removeClass id name => exact writing_quiet (fun s => View.removeClass s id name) e
  | setHidden id hidden => exact writing_quiet (fun s => View.setHidden s id hidden) e

end Engine

/-! ### Acts -/

/-- What is done to an engine from outside: an operation, a run of a handler, or recording an event
that is no delivery. -/
inductive Act where
  | perform (op : EngineOp)
  | handle (h : Script.Handler) (call : Script.Invocation)
  | note (event : Event) (h : event.kind ≠ .connectionDataReceived)

namespace Engine

/-- The engine after an act, however the act ends. -/
def act (e : Engine) : Act → Engine
  | .perform op => e.perform op
  | .handle h call => (h.run call e).2
  | .note event _ => e.record event

/-- Every act leaves a trail, except that registering a behavior changes what is known of
behaviors. -/
theorem act_trail (e : Engine) (act : Act) (hact : ∀ b, act ≠ .perform (.registerBehavior b)) :
    ∃ events, Trail (fun e => e.act act) e Anyone events := by
  cases act with
  | perform op => exact e.perform_trail op fun b hop => hact b (congrArg Act.perform hop)
  | handle h call =>
      obtain ⟨events, htrail, -⟩ := runHandler_trail h call e
      exact ⟨events, htrail.mono fun _ _ => .inl trivial⟩
  | note event h => exact ⟨[event], .record event h e Anyone⟩

/-- An act records some events, and every application that is there before and after it is what its
hook made of it, run once for each of its inputs among them. -/
structure Private (e : Engine) (act : Act) (events : List Event) : Prop where
  records : e.Records (fun e => e.act act) events
  counted : (e.act act).behaviors.Counted
  hooked : ∀ a ∈ e.behaviors.applied, ∀ a' ∈ (e.act act).behaviors.applied, a'.id = a.id →
    e.behaviors.Hooked a (e.behaviors.inputs a events) a'
  kept : ∀ a ∈ e.behaviors.applied, ∀ a' ∈ (e.act act).behaviors.applied, a'.id = a.id →
    e.behaviors.inputs a events = [] → a'.state = a.state

/-- An application that heard nothing is kept, so that it is enough to know what was heard. -/
theorem Private.of_hooked {e : Engine} {act : Act} {events : List Event}
    (hrecords : e.Records (fun e => e.act act) events)
    (hcounted : (e.act act).behaviors.Counted)
    (hhooked : ∀ a ∈ e.behaviors.applied, ∀ a' ∈ (e.act act).behaviors.applied, a'.id = a.id →
      e.behaviors.Hooked a (e.behaviors.inputs a events) a') : e.Private act events where
  records := hrecords
  counted := hcounted
  hooked := hhooked
  kept a ha a' ha' hid hnone := by
    have h := hhooked a ha a' ha' hid
    rw [hnone] at h
    rw [h.eq_of_nil]

/-- **Private states are private.** The applications of a new engine have ids of their own, and
every act keeps this. In every engine of which it holds, and for every act, however deep emissions
nest in it, there is a list of events that the act records, whatever the log, such that an
application that is there before and after

* ran its hook exactly once for each event of a value that came to its component at an input of its
  behavior, in the order of the events, each time on the private state that it had then;
* has its private state unchanged if there is no such event. -/
theorem states_private :
    (∀ config, (Engine.new config).behaviors.Counted) ∧
    ∀ e : Engine, e.behaviors.Counted → ∀ act, ∃ events, e.Private act events := by
  refine ⟨fun _ => .of_nil rfl, fun e hcounted act => ?_⟩
  by_cases hregister : ∃ b, act = .perform (.registerBehavior b)
  · -- a behavior that becomes known runs no hook
    obtain ⟨b, rfl⟩ := hregister
    refine ⟨[], .of_hooked (fun _ => rfl) ⟨hcounted.distinct, hcounted.used⟩
      fun a ha a' ha' hid => ?_⟩
    obtain rfl := hcounted.eq_of_id_eq ha ha' hid
    exact .nil _
  · obtain ⟨events, htrail⟩ := e.act_trail act fun b heq => hregister ⟨b, heq⟩
    exact ⟨events, .of_hooked htrail.records (htrail.heard.counted hcounted)
      fun a ha a' ha' hid => htrail.heard.hooked hcounted ha ha' hid⟩

/-- A value put into the loop of a counter that feeds itself is counted by the hook of the counter
only, once for each time that it came around. -/
theorem states_private_feedback :
    Engine.feedback.behaviors.Counted ∧ ∃ events,
      ∃ a ∈ Engine.feedback.behaviors.applied,
        ∃ a' ∈ (Engine.feedback.act
            (.perform (.call (.sendInput ⟨"t", "increment"⟩ .null)))).behaviors.applied,
          a'.id = a.id ∧
            Engine.feedback.behaviors.Hooked a (Engine.feedback.behaviors.inputs a events) a' := by
  have hcounted : Engine.feedback.behaviors.Counted :=
    ⟨by decide, List.forall_mem_singleton.mpr ⟨0, Nat.zero_lt_one, rfl⟩⟩
  obtain ⟨events, hprivate⟩ := states_private.2 Engine.feedback hcounted
    (.perform (.call (.sendInput ⟨"t", "increment"⟩ .null)))
  have hid : "a0" ∈ (Engine.feedback.act
      (.perform (.call (.sendInput ⟨"t", "increment"⟩ .null)))).behaviors.applied.map (·.id) := by
    decide +kernel
  obtain ⟨a', ha', hid'⟩ := List.mem_map.mp hid
  exact ⟨hcounted, events, _, List.mem_singleton_self _, a', ha', hid',
    hprivate.hooked _ (List.mem_singleton_self _) a' ha' hid'⟩

end Engine

end WidgetFlow
