import WidgetFlow.Proofs.Engine.Cascade
import WidgetFlow.Proofs.Engine.Operation

/-!
# Outputs are never overtaken by stale effects

Counters and toggles keep a property of their component up with their private state. Behaviors may
be applied, connected and fed in any way, loops included, as long as nothing else uses these
properties: no two applications of a component have the same one, and neither a connection nor an
input from outside ends at one (`Engine.Apart`, `EngineOp.Spares`). Then after every operation each
of these properties has the value that the private state says, however often an emission came back
to the same component, and wherever it was cut off by the limit.

## Main results

* `Settled.perform`: one operation keeps the outputs right.
* `outputs_shown`: so does every run of operations.
-/

namespace WidgetFlow

/-- Whether an operation applies a behavior, makes or removes a connection, or puts a value in. -/
def EngineOp.streams : EngineOp → Bool
  | .connect _ _ _ => true
  | .connectNamed _ _ _ => true
  | .disconnect _ => true
  | .call (.emit _ _) => true
  | .call (.sendInput _ _) => true
  | .call (.applyBehavior _ _ _) => true
  | _ => false

namespace Engine

/-- The properties that the applied behaviors keep up, as points of their components. -/
def outputs (e : Engine) : List Endpoint := e.behaviors.applied.filterMap Applied.output?

/-- No two applications have the same output, and no connection ends at one. -/
structure Apart (e : Engine) : Prop where
  distinct : e.outputs.Nodup
  untargeted : ∀ c ∈ e.graph.all, c.target ∉ e.outputs

instance (e : Engine) : Decidable e.Apart :=
  decidable_of_iff (e.outputs.Nodup ∧ ∀ c ∈ e.graph.all, c.target ∉ e.outputs)
    ⟨fun h => ⟨h.1, h.2⟩, fun h => ⟨h.distinct, h.untargeted⟩⟩

end Engine

/-- An operation does not put a value into the output of an application. -/
def EngineOp.Spares (e : Engine) : EngineOp → Prop
  | .call (.sendInput target _) => target ∉ e.outputs
  | _ => True

namespace Engine

/-- The second engine comes from the first by applying behaviors, making and removing connections,
emitting and putting values in, where the outputs are kept apart all the time. -/
inductive Streams : Engine → Engine → Prop
  | refl (e : Engine) : Streams e e
  | perform {e e' : Engine} (h : Streams e e') (op : EngineOp) (hop : op.streams = true)
      (hspares : op.Spares e') (hapart : (e'.perform op).Apart) : Streams e (e'.perform op)

variable {e e' : Engine} {w : Wiring} {G : Set Endpoint} {target : Endpoint} {v : Value}

/-! ### Emissions and inputs from outside -/

/-- An emission from outside refreshes the applications that it reaches. -/
theorem refreshes_emit (hw : w.Sound G) (h : Ready w e) (source : Endpoint) (v : Value) :
    Refreshes w G (w.Reaches (e.config.runtime.maxEmitDepth - e.emitDepth) source) e
      (e.emit source v).2 :=
  refreshes_emitWithin hw _ e source v h

/-- An input from outside refreshes the applications that it reaches, as long as an application
whose output it ends at listens there. -/
theorem refreshes_sendInput (hw : w.Sound G) (h : Ready w e)
    (hspares : target ∈ G → ∀ r ∈ w.roles, r.output? = some target → r.Listens target) :
    ∃ P, Refreshes w G P e (e.sendInput target v).2 := by
  rw [sendInput]
  split
  · exact ⟨_, .aside h _ _ _⟩
  · next s hs =>
      obtain rfl : (e.instances.setStateValue target.component target.point v).2 = s := by rw [hs]
      -- the value is written first, and then the behaviors run with the room that the limit leaves
      have hwritten : Disturbs w G (fun id => ∃ r ∈ w.roles, r.Listens target ∧ r.id = id) e
          ({ e with instances :=
            (e.instances.setStateValue target.component target.point v).2 }.record
              { kind := .connectionDataReceived, component := target.component
                payload := pointPayload target.point v }) := by
        refine .of_instances h h.tidy.setStateValue .of_setStateValue fun r hr hid p hp hout => ?_
        refine Store.property_setStateValue_of_ne fun hcomponent hpoint => hid ⟨r, hr, ?_, rfl⟩
        obtain rfl : target = p := congrArg₂ Endpoint.mk hcomponent hpoint
        exact hspares hp r hr hout
      have hrun := refreshes_runBehaviorsBy hw
        (refreshes_emitWithin hw (e.config.runtime.maxEmitDepth - e.emitDepth))
        hwritten.ready target v
      rw [runBehaviorsBy_congr fun m hm => ?_] at hrun
      · exact ⟨_, hwritten.refreshes hrun fun id hlistens => .inl hlistens⟩
      · have hflows := flows_of_mem_behaviorEmissions hm
        have hconfig : m.engine.config = e.config := hflows.config
        have hdepth : m.engine.emitDepth = e.emitDepth := hflows.emitDepth
        rw [Emission.run, emit, hconfig, hdepth]

/-! ### Settled engines -/

/-- Between two operations: the wiring is sound, and all applications are shown. -/
structure Settled (e : Engine) : Prop where
  ready : Ready e.wiring e
  numbered : e.Numbered
  sound : e.wiring.Sound Set.univ
  shown : ∀ a ∈ e.behaviors.applied, a.Shown e.instances

/-- An output of a role is one of the engine. -/
theorem mem_outputs {r : Role} {p : Endpoint} (hr : r ∈ e.wiring.roles) (hp : r.output? = some p) :
    p ∈ e.outputs := by
  obtain ⟨a, ha, rfl⟩ := List.mem_map.mp hr
  exact List.mem_filterMap.mpr ⟨a, ha, hp⟩

/-- The wiring is sound if outputs are apart, ids differ and components are there. -/
theorem Apart.sound (h : e.Apart) (hnodup : (e.behaviors.applied.map Applied.id).Nodup)
    (hlive : ∀ a ∈ e.behaviors.applied, ∀ p, a.output? = some p →
      e.instances.contains a.component = true) : e.wiring.Sound Set.univ where
  nodup := by
    rw [wiring, List.map_map]
    exact hnodup
  live := List.forall_mem_map.mpr fun a ha p _ hp => hlive a ha p hp
  distinct p _ r hr r' hr' hp hp' := by
    by_contra hne
    have hdistinct : (e.wiring.roles.filterMap Role.output?).Nodup := by
      rw [wiring, List.filterMap_map]
      exact h.distinct
    have hsymm : Std.Symm fun r r' : Role =>
        ∀ q, r.output? = some q → ∀ q', r'.output? = some q' → q ≠ q' :=
      ⟨fun _ _ hdistinct q hq q' hq' => (hdistinct q' hq' q hq).symm⟩
    exact (List.pairwise_filterMap.mp hdistinct).forall hr hr' hne p hp p hp' rfl
  answered p _ r hr hp c hc heq := absurd (heq ▸ mem_outputs hr hp) (h.untargeted c hc)

/-- An engine without applications is settled. -/
theorem Settled.of_applied_eq_nil (hfree : e.behaviors.applied = [])
    (hknown : e.behaviors.behaviors = BehaviorSystem.standard.behaviors)
    (htidy : e.instances.Tidy) : e.Settled := by
  have hnone : ∀ a, a ∉ e.behaviors.applied := fun a ha => by
    rw [hfree] at ha
    exact nomatch ha
  refine ⟨⟨rfl, hknown, htidy⟩, fun a ha => absurd ha (hnone a), Apart.sound ?_ ?_ ?_,
    fun a ha => absurd ha (hnone a)⟩
  · have houtputs : e.outputs = [] := by
      rw [outputs, hfree]
      rfl
    refine ⟨?_, fun c _ => ?_⟩
    · rw [houtputs]
      exact List.nodup_nil
    · rw [houtputs]
      exact List.not_mem_nil
  · rw [hfree]
    exact List.nodup_nil
  · exact fun a ha => absurd ha (hnone a)

/-- A settled engine stays settled if what flows refreshes all that it disturbs. -/
theorem Settled.of_refreshes (h : e.Settled) {P : String → Prop}
    (hrefreshes : Refreshes e.wiring Set.univ P e e') (hnumbered : e'.Numbered) : e'.Settled where
  ready := ⟨rfl, hrefreshes.ready.known, hrefreshes.ready.tidy⟩
  numbered := hnumbered
  sound := by
    rw [hrefreshes.ready.wiring]
    exact h.sound
  shown a ha := Applied.shownIn_univ.mp
    (hrefreshes.shown ha fun hbefore => Applied.shownIn_univ.mpr (h.shown a hbefore))

/-- A settled engine stays settled when connections are made and removed that keep the outputs
apart. -/
theorem Settled.of_graph (h : e.Settled) {graph : Graph} {events : EventLog}
    (hapart : { e with graph, events }.Apart) : { e with graph, events }.Settled where
  ready := ⟨rfl, h.ready.known, h.ready.tidy⟩
  numbered := h.numbered
  sound := hapart.sound (h.ready.nodup h.sound) fun _ ha _ hp =>
    h.ready.contains h.sound ha trivial hp
  shown := h.shown

/-- The number of the next application is not in use. -/
theorem Numbered.nodup_append (h : e.Numbered)
    (hnodup : (e.behaviors.applied.map Applied.id).Nodup) {a : Applied}
    (ha : a.id = BehaviorSystem.idOf e.behaviors.next) :
    ((e.behaviors.applied ++ [a]).map Applied.id).Nodup := by
  rw [List.map_append, List.map_singleton, ← List.concat_eq_append, List.nodup_concat]
  refine ⟨fun hmem => ?_, hnodup⟩
  obtain ⟨b, hb, hid⟩ := List.mem_map.mp hmem
  obtain ⟨n, hn, hb⟩ := h b hb
  have heq : n = e.behaviors.next :=
    BehaviorSystem.idOf_injective (hb.symm.trans (hid.trans ha))
  exact Nat.lt_irrefl _ (heq ▸ hn)

/-- The engine with one more application, which takes the next number. -/
def applying (e : Engine) (a : Applied) : Engine :=
  { e with behaviors := { e.behaviors with
      applied := e.behaviors.applied ++ [a]
      next := e.behaviors.next + 1 } }

/-- A settled engine stays settled when an application is added whose output is apart, together with
effects that bring it in line: these disturb no other application. -/
theorem Settled.applying (h : e.Settled) {a : Applied} {effects : List Effect}
    (hid : a.id = BehaviorSystem.idOf e.behaviors.next)
    (hlive : e.instances.contains a.component = true) (hdisplays : a.Displays effects)
    (hapart : (e.applying a).Apart) :
    { e.applying a with
      instances := effects.foldl (Effect.apply a.component) e.instances }.Settled := by
  have hready : Ready (e.applying a).wiring (e.applying a) := ⟨rfl, h.ready.known, h.ready.tidy⟩
  have hsound : (e.applying a).wiring.Sound Set.univ := by
    refine hapart.sound (h.numbered.nodup_append (h.ready.nodup h.sound) hid) ?_
    refine List.forall_mem_append.mpr ⟨fun b hb p hp => ?_, fun b hb _ _ => ?_⟩
    · exact h.ready.contains h.sound hb trivial hp
    · rw [List.mem_singleton.mp hb]
      exact hlive
  have hnew : a ∈ (e.applying a).behaviors.applied :=
    List.mem_append_right _ (List.mem_singleton_self a)
  have hrefreshes := refreshes_displays hsound hready hnew hdisplays
  refine ⟨⟨rfl, h.ready.known, hrefreshes.ready.tidy⟩, fun b hb => ?_, ?_, fun b hb => ?_⟩
  · rcases List.mem_append.mp hb with hb | hb
    · obtain ⟨n, hn, hidOf⟩ := h.numbered b hb
      exact ⟨n, Nat.lt_succ_of_lt hn, hidOf⟩
    · rw [List.mem_singleton.mp hb]
      exact ⟨_, Nat.lt_succ_self _, hid⟩
  · exact hrefreshes.ready.wiring ▸ hsound
  · refine Applied.shownIn_univ.mp ?_
    by_cases hsame : a.id = b.id
    · exact hrefreshes.fresh b hb hsame
    · refine hrefreshes.toDisturbs.shown hb hsame (Applied.shownIn_univ.mpr (h.shown b ?_))
      refine (List.mem_append.mp hb).resolve_right fun hmem => hsame ?_
      rw [List.mem_singleton.mp hmem]

/-- A settled engine stays settled when a behavior is applied whose output is apart. -/
theorem Settled.applyBehavior (h : e.Settled) (component behavior : String)
    (options : BehaviorOptions) (hapart : (e.applyBehavior component behavior options).2.Apart) :
    (e.applyBehavior component behavior options).2.Settled := by
  rcases e.applyBehavior_cases component behavior options with
    heq | ⟨hlive, found, events, hfound, heq⟩
  · rwa [heq]
  · have hstandard : BehaviorSystem.standard.get? behavior = some found := by
      rw [BehaviorSystem.get?, h.ready.known] at hfound
      exact hfound
    let start : Applied := ⟨BehaviorSystem.idOf e.behaviors.next, behavior, component,
      options.seed found.defaults⟩
    have hdisplays := Applied.displays_onAttach (a := start) hstandard (.of e.instances component)
      options rfl
    rw [heq, applyOutcomeBy_of_displays _ _ hdisplays] at hapart ⊢
    have hrecorded : { e with events }.Settled :=
      ⟨⟨rfl, h.ready.known, h.ready.tidy⟩, h.numbered, h.sound, h.shown⟩
    exact hrecorded.applying rfl hlive hdisplays ⟨hapart.distinct, hapart.untargeted⟩

/-- Operations that keep the outputs apart keep an engine settled. -/
theorem Settled.perform (h : e.Settled) {op : EngineOp} (hop : op.streams = true)
    (hspares : op.Spares e) (hapart : (e.perform op).Apart) : (e.perform op).Settled := by
  have hconnect : ∀ source target transform?, (e.connect source target transform?).2.Apart →
      (e.connect source target transform?).2.Settled := by
    intro source target transform? hapart
    rcases e.connect_cases source target transform? with heq | ⟨-, -, events, heq⟩
    · rwa [heq]
    · rw [heq] at hapart ⊢
      exact h.of_graph hapart
  cases op with
  | connect source target transform? => exact hconnect source target transform? hapart
  | connectNamed source target name? => exact hconnect source target _ hapart
  | disconnect id =>
      obtain ⟨events, heq⟩ := e.disconnect_cases id
      rw [Engine.perform, heq] at hapart ⊢
      exact h.of_graph hapart
  | call call =>
      cases call with
      | emit source v =>
          exact h.of_refreshes (refreshes_emit h.sound h.ready source v)
            (h.numbered.call (.emit source v))
      | sendInput target v =>
          obtain ⟨P, hrefreshes⟩ := refreshes_sendInput (v := v) h.sound h.ready
            fun _ r hr hp => absurd (mem_outputs hr hp) hspares
          exact h.of_refreshes hrefreshes (h.numbered.call (.sendInput target v))
      | applyBehavior component behavior options =>
          exact h.applyBehavior component behavior options hapart
      | applyEffects component effects => cases hop
      | removeBehavior id => cases hop
  | _ => cases hop

/-- **Outputs are never overtaken.** Start from an engine with the built-in behaviors and none of
them applied, with any instances, connections and settings. Apply them, connect and disconnect, emit
and put values in, in any order, so that the outputs are apart from each other and from all else.
Then after every operation the component of each counter has the private count as its property, and
the component of each toggle with states has the state at the private index. -/
theorem outputs_shown (hfree : e.behaviors.applied = [])
    (hknown : e.behaviors.behaviors = BehaviorSystem.standard.behaviors)
    (htidy : e.instances.Tidy) (hrun : Streams e e') :
    ∀ a ∈ e'.behaviors.applied, a.Shown e'.instances := by
  have hsettled : e'.Settled := by
    induction hrun with
    | refl => exact .of_applied_eq_nil hfree hknown htidy
    | perform _ op hop hspares hapart ih => exact ih.perform hop hspares hapart
  exact hsettled.shown

/-- A text without behaviors, where three emissions may nest in each other. -/
def lone : Engine :=
  { Engine.new { runtime := { maxEmitDepth := 3 } } with
    instances := { instances := [("t", { id := "t", kind := .text, properties := [] })] } }

/-- Two counters on the text, both fed by what they emit. -/
def twins : List EngineOp :=
  [.call (.applyBehavior "t" "counter" {}),
    .call (.applyBehavior "t" "counter" { params := [("property", .str "total")] }),
    .connect ⟨"t", "countChanged"⟩ ⟨"t", "increment"⟩ none,
    .call (.sendInput ⟨"t", "increment"⟩ .null)]

/-- Two counters that feed each other have their counts as properties. -/
theorem outputs_shown_twins :
    (twins.foldl perform lone).outputs = [⟨"t", "count"⟩, ⟨"t", "total"⟩] ∧
      ∀ a ∈ (twins.foldl perform lone).behaviors.applied,
        a.Shown (twins.foldl perform lone).instances := by
  have htidy : lone.instances.Tidy := by
    intro id i hi
    obtain rfl := (Prod.mk.inj (List.mem_singleton.mp (Dict.mem_of_get? hi))).2
    exact Dict.Sorted.nil
  have hcount : Streams lone ((twins.take 1).foldl perform lone) :=
    (Streams.refl lone).perform (.call (.applyBehavior "t" "counter" {})) rfl trivial
      (by decide)
  have htotal : Streams lone ((twins.take 2).foldl perform lone) :=
    hcount.perform (.call (.applyBehavior "t" "counter" { params := [("property", .str "total")] }))
      rfl trivial (by decide)
  have hloop : Streams lone ((twins.take 3).foldl perform lone) :=
    htotal.perform (.connect ⟨"t", "countChanged"⟩ ⟨"t", "increment"⟩ none) rfl trivial
      (by decide)
  have hrun : Streams lone (twins.foldl perform lone) :=
    hloop.perform (.call (.sendInput ⟨"t", "increment"⟩ .null)) rfl
      (show _ ∉ ((twins.take 3).foldl perform lone).outputs by decide)
      (by decide)
  exact ⟨rfl, outputs_shown rfl rfl htidy hrun⟩

end Engine

end WidgetFlow
