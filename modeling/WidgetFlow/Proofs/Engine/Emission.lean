import Mathlib.Logic.Relation
import WidgetFlow.Proofs.Engine.Flows

/-!
# Emissions end, and leave the depth as it was

Emissions nest: the behaviors that a delivery reaches may emit in turn, over whatever connections
there are, loops included. `Engine.emit` runs on the room that the limit leaves; this module says
what it computes without speaking of room. `Engine.emitBy` is one pass of the rule, which compares
the depth with the limit and leaves nested emissions to a parameter, and `emit_eq` says that an
emission is one pass whose nested emissions are emissions themselves.

## Conventions

An `Emission` is an emission that is about to run, together with the engine it runs on.
`Emission.nested` lists the emissions that one starts directly, each on the engine it meets, and
`emitBy_congr` says that the list is complete: nothing but the results of these emissions enters
the result. A `Call` is what starts emissions from outside.

## Main results

* `emit_eq`: the rule that an emission follows.
* `Emission.acc_nested`: no emission starts an endless chain of others.
* `Emission.depth_le_of_reaches`: no emission starts beyond the limit.
* `emissions_bounded_and_balanced`: all of this for every call on an engine at rest.
-/

namespace WidgetFlow

/-! ### Folds with their states -/

/-- The items of a list, each with the state in which a fold comes to it. -/
def visited {σ : Type u} {α : Type v} (f : σ → α → σ) : σ → List α → List (σ × α)
  | _, [] => []
  | s, a :: rest => (s, a) :: visited f (f s a) rest

section Visited

variable {σ : Type u} {α : Type v} {f g : σ → α → σ}

/-- Two folds agree if their steps agree in the states in which one of them is. -/
theorem foldl_congr_visited {items : List α} {s : σ}
    (h : ∀ p ∈ visited g s items, f p.1 p.2 = g p.1 p.2) : items.foldl f s = items.foldl g s := by
  induction items generalizing s with
  | nil => rfl
  | cons a rest ih =>
      have ha : f s a = g s a := h (s, a) List.mem_cons_self
      rw [List.foldl_cons, List.foldl_cons, ha]
      exact ih fun p hp => h p (List.mem_cons_of_mem _ hp)

/-- What relates the states of a fold relates the first state to every one that it comes to. -/
theorem rel_of_mem_visited {R : σ → σ → Prop} (hrefl : ∀ s, R s s)
    (htrans : ∀ {s t u}, R s t → R t u → R s u) (hf : ∀ s a, R s (f s a)) {items : List α} {s : σ}
    {p : σ × α} (h : p ∈ visited f s items) : R s p.1 := by
  induction items generalizing s with
  | nil => exact absurd h List.not_mem_nil
  | cons a rest ih =>
      rcases List.mem_cons.mp h with rfl | h
      · exact hrefl s
      · exact htrans (hf s a) (ih h)

end Visited

namespace Engine

/-! ### One pass of the rule -/

/-- One pass of an emission, with a way to run the emissions that nest in it: it is refused at the
limit, it does nothing if its component is not there, and else it is carried over the connections
one level deeper. -/
def emitBy (nested : Engine → Endpoint → Value → Engine) (e : Engine) (source : Endpoint)
    (v : Value) : Except EngineError (List Delivery) × Engine :=
  if e.config.runtime.maxEmitDepth ≤ e.emitDepth then
    (.error (.emitDepthExceeded (e.emitDepth + 1) e.config.runtime.maxEmitDepth), e)
  else if e.instances.contains source.component then
    let settled := (e.entered source v).1.foldl (settleBy nested source v) (e.entered source v).2
    (.ok (e.entered source v).1, { settled with emitDepth := settled.emitDepth - 1 })
  else (.ok [], e)

/-- The engine with a delivery recorded. -/
def noted (e : Engine) (source : Endpoint) (v : Value) (d : Delivery) : Engine :=
  (e.record
    { kind := .connectionDataSent, component := source.component
      connection? := some d.connectionId, payload := pointPayload source.point v }).record
    { kind := .connectionDataReceived, component := d.target.component
      connection? := some d.connectionId, payload := pointPayload d.target.point d.value }

/-- Settling a delivery is recording it and running the behaviors at its target. -/
theorem settleBy_eq (emit : Engine → Endpoint → Value → Engine) (source : Endpoint) (v : Value)
    (e : Engine) (d : Delivery) :
    settleBy emit source v e d = runBehaviorsBy emit (e.noted source v d) d.target d.value := rfl

end Engine

/-- An emission that is about to run on an engine. -/
structure Emission where
  engine : Engine
  source : Endpoint
  value : Value

namespace Engine

/-- The emissions that applying an outcome starts, each on the engine it meets. -/
def outcomeEmissions (e : Engine) (o : HookOutcome) : List Emission :=
  let (emissions, instances) := WidgetFlow.applyEffects o.component o.effects e.instances
  (visited (fun e (m : String × Value) => e.emitSilently ⟨o.component, m.1⟩ m.2)
    { e with instances } emissions).map fun p => ⟨p.1, ⟨o.component, p.2.1⟩, p.2.2⟩

/-- The emissions that the behaviors listening at a point start. -/
def behaviorEmissions (e : Engine) (target : Endpoint) (v : Value) : List Emission :=
  let (outcomes, behaviors) := e.behaviors.deliver target.component target.point v e.instances
  (visited (applyOutcomeBy emitSilently) { e with behaviors } outcomes).flatMap fun p =>
    p.1.outcomeEmissions p.2

/-- The emissions that settling deliveries starts. -/
def deliveryEmissions (e : Engine) (source : Endpoint) (v : Value) (deliveries : List Delivery) :
    List Emission :=
  (visited (settleBy emitSilently source v) e deliveries).flatMap fun p =>
    (p.1.noted source v p.2).behaviorEmissions p.2.target p.2.value

end Engine

namespace Emission

/-- Runs an emission. -/
def run (m : Emission) : Except EngineError (List Delivery) × Engine :=
  m.engine.emit m.source m.value

/-- The greatest depth that emissions may reach. -/
def limit (m : Emission) : Nat := m.engine.config.runtime.maxEmitDepth

/-- The depth at which an emission starts. -/
def depth (m : Emission) : Nat := m.engine.emitDepth

/-- The emissions that an emission starts directly, each on the engine it meets. -/
def nested (m : Emission) : List Emission :=
  if m.limit ≤ m.depth then []
  else if m.engine.instances.contains m.source.component then
    (m.engine.entered m.source m.value).2.deliveryEmissions m.source m.value
      (m.engine.entered m.source m.value).1
  else []

/-- The first emission starts the second directly. -/
def Starts (m m' : Emission) : Prop := m' ∈ m.nested

end Emission

namespace Engine

variable {nested : Engine → Endpoint → Value → Engine} {e : Engine}

/-! ### Nothing else is run -/

/-- Applying an outcome depends on the emissions it starts only. -/
theorem applyOutcomeBy_congr {o : HookOutcome}
    (h : ∀ m ∈ e.outcomeEmissions o, nested m.engine m.source m.value = m.run.2) :
    applyOutcomeBy nested e o = applyOutcomeBy emitSilently e o :=
  foldl_congr_visited fun p hp => h ⟨p.1, ⟨o.component, p.2.1⟩, p.2.2⟩ (List.mem_map_of_mem hp)

/-- Running behaviors depends on the emissions they start only. -/
theorem runBehaviorsBy_congr {target : Endpoint} {v : Value}
    (h : ∀ m ∈ e.behaviorEmissions target v, nested m.engine m.source m.value = m.run.2) :
    runBehaviorsBy nested e target v = runBehaviorsBy emitSilently e target v :=
  foldl_congr_visited fun p hp => applyOutcomeBy_congr fun m hm =>
    h m (List.mem_flatMap.mpr ⟨p, hp, hm⟩)

/-- Settling deliveries depends on the emissions they start only. -/
theorem foldl_settleBy_congr {source : Endpoint} {v : Value} {deliveries : List Delivery}
    (h : ∀ m ∈ e.deliveryEmissions source v deliveries,
      nested m.engine m.source m.value = m.run.2) :
    deliveries.foldl (settleBy nested source v) e =
      deliveries.foldl (settleBy emitSilently source v) e := by
  refine foldl_congr_visited fun p hp => ?_
  rw [settleBy_eq, settleBy_eq]
  exact runBehaviorsBy_congr fun m hm => h m (List.mem_flatMap.mpr ⟨p, hp, hm⟩)

/-- One pass of an emission depends on the emissions it starts only. -/
theorem emitBy_congr {source : Endpoint} {v : Value}
    (h : ∀ m ∈ (Emission.mk e source v).nested, nested m.engine m.source m.value = m.run.2) :
    emitBy nested e source v = emitBy emitSilently e source v := by
  unfold emitBy
  by_cases hlimit : e.config.runtime.maxEmitDepth ≤ e.emitDepth
  · rw [if_pos hlimit, if_pos hlimit]
  · rw [if_neg hlimit, if_neg hlimit]
    by_cases hc : e.instances.contains source.component = true
    · have hnested : (Emission.mk e source v).nested =
          (e.entered source v).2.deliveryEmissions source v (e.entered source v).1 :=
        (if_neg hlimit).trans (if_pos hc)
      rw [if_pos hc, if_pos hc, foldl_settleBy_congr (hnested ▸ h)]
    · rw [if_neg hc, if_neg hc]

end Engine

/-! ### Depths -/

namespace Engine

variable {e : Engine} {m : Emission}

/-- The emissions that an outcome starts are started by flows. -/
theorem flows_of_mem_outcomeEmissions {o : HookOutcome} (h : m ∈ e.outcomeEmissions o) :
    Flows e m.engine := by
  obtain ⟨p, hp, rfl⟩ := List.mem_map.mp h
  have hw := (Flows.refl e).write (applyEffects_writes o.component o.effects e.instances)
  exact hw.trans (rel_of_mem_visited .refl .trans
    (fun e (m : String × Value) => e.emitSilently_flows ⟨o.component, m.1⟩ m.2) hp)

/-- The emissions that behaviors start are started by flows. -/
theorem flows_of_mem_behaviorEmissions {target : Endpoint} {v : Value}
    (h : m ∈ e.behaviorEmissions target v) : Flows e m.engine := by
  obtain ⟨p, hp, hm⟩ := List.mem_flatMap.mp h
  have hh := (Flows.refl e).hooks target.component target.point v
  have hp' := rel_of_mem_visited .refl .trans (applyOutcomeBy_flows emitSilently_flows) hp
  exact (hh.trans hp').trans (flows_of_mem_outcomeEmissions hm)

/-- The emissions that deliveries start are started by flows. -/
theorem flows_of_mem_deliveryEmissions {source : Endpoint} {v : Value} {deliveries : List Delivery}
    (h : m ∈ e.deliveryEmissions source v deliveries) : Flows e m.engine := by
  obtain ⟨p, hp, hm⟩ := List.mem_flatMap.mp h
  have hp' := rel_of_mem_visited .refl .trans (settleBy_flows emitSilently_flows source v) hp
  exact (hp'.trans (((Flows.refl _).record _).record _)).trans (flows_of_mem_behaviorEmissions hm)

end Engine

namespace Emission

variable {m m' : Emission}

/-- An emission that starts another one is below the limit. -/
theorem Starts.depth_lt (h : m.Starts m') : m.depth < m.limit := by
  by_contra hle
  rw [Starts, nested, if_pos (not_lt.mp hle)] at h
  exact absurd h List.not_mem_nil

/-- An emission that starts another one runs it in a flow from where it entered. -/
theorem Starts.flows (h : m.Starts m') :
    Engine.Flows (m.engine.entered m.source m.value).2 m'.engine := by
  have hlt := h.depth_lt
  rw [Starts, nested, if_neg (not_le.mpr hlt)] at h
  split at h
  · exact Engine.flows_of_mem_deliveryEmissions h
  · exact absurd h List.not_mem_nil

/-- An emission starts others one level deeper. -/
theorem Starts.depth_eq (h : m.Starts m') : m'.depth = m.depth + 1 := h.flows.emitDepth

/-- The limit is the same for all emissions that nest in one another. -/
theorem Starts.limit_eq (h : m.Starts m') : m'.limit = m.limit :=
  congrArg (fun c : Config => c.runtime.maxEmitDepth) h.flows.config

/-- No emission starts an endless chain of others: every one that nests leaves less room. -/
theorem acc_nested (m : Emission) : Acc (fun m' m => m.Starts m') m := by
  induction hroom : m.limit - m.depth using Nat.strong_induction_on generalizing m with
  | _ room ih =>
      refine Acc.intro m fun m' h => ih (m'.limit - m'.depth) ?_ m' rfl
      have := h.depth_lt
      rw [h.limit_eq, h.depth_eq]
      omega

/-- No emission starts beyond the limit if the one that it nests in does not. -/
theorem depth_le_of_reaches (h : Relation.ReflTransGen Starts m m') (hm : m.depth ≤ m.limit) :
    m'.depth ≤ m'.limit ∧ m'.limit = m.limit := by
  induction h with
  | refl => exact ⟨hm, rfl⟩
  | tail _ hlast ih =>
      refine ⟨?_, hlast.limit_eq.trans ih.2⟩
      rw [hlast.depth_eq, hlast.limit_eq]
      exact hlast.depth_lt

end Emission

namespace Engine

/-! ### The rule of an emission -/

/-- Within the room that the limit leaves, an emission is one pass of the rule. -/
theorem emitWithin_succ (room : Nat) (e : Engine) (source : Endpoint) (v : Value)
    (h : e.emitDepth < e.config.runtime.maxEmitDepth) :
    emitWithin (room + 1) e source v =
      emitBy (fun e source v => (emitWithin room e source v).2) e source v := by
  rw [emitWithin, emitBy, if_neg (not_le.mpr h)]
  rfl

/-- **The rule of an emission.** An emission is one pass in which all nested emissions are emissions
in turn. -/
theorem emit_eq (e : Engine) (source : Endpoint) (v : Value) :
    e.emit source v = emitBy emitSilently e source v := by
  by_cases hlimit : e.config.runtime.maxEmitDepth ≤ e.emitDepth
  · rw [emit, Nat.sub_eq_zero_of_le hlimit, emitWithin, emitBy, if_pos hlimit]
  · obtain ⟨room, hroom⟩ : ∃ room, e.config.runtime.maxEmitDepth - e.emitDepth = room + 1 :=
      ⟨e.config.runtime.maxEmitDepth - e.emitDepth - 1, by omega⟩
    rw [emit, hroom, emitWithin_succ room e source v (not_le.mp hlimit)]
    refine emitBy_congr fun m hm => ?_
    -- a nested emission has exactly the room that is passed on to it
    have hdepth : m.engine.emitDepth = e.emitDepth + 1 :=
      Emission.Starts.depth_eq (m := ⟨e, source, v⟩) hm
    have hlimit : m.engine.config.runtime.maxEmitDepth = e.config.runtime.maxEmitDepth :=
      Emission.Starts.limit_eq (m := ⟨e, source, v⟩) hm
    have hleft : m.engine.config.runtime.maxEmitDepth - m.engine.emitDepth = room := by omega
    rw [Emission.run, emit, hleft]

/-- At the limit an emission is refused, and nothing changes. -/
theorem emit_of_le {e : Engine} {source : Endpoint} {v : Value}
    (h : e.config.runtime.maxEmitDepth ≤ e.emitDepth) :
    e.emit source v =
      (.error (.emitDepthExceeded (e.emitDepth + 1) e.config.runtime.maxEmitDepth), e) := by
  rw [emit_eq, emitBy, if_pos h]

/-- Below the limit an emission succeeds, whatever becomes of those that nest in it. -/
theorem emit_of_lt {e : Engine} {source : Endpoint} {v : Value}
    (h : e.emitDepth < e.config.runtime.maxEmitDepth) :
    ∃ deliveries, (e.emit source v).1 = .ok deliveries := by
  rw [emit_eq, emitBy, if_neg (not_le.mpr h)]
  split
  · exact ⟨_, rfl⟩
  · exact ⟨_, rfl⟩

end Engine

/-! ### Calls from outside -/

/-- What sets emissions off: one emission, the behaviors that listen at a point, or an outcome. -/
inductive Task where
  | emission (source : Endpoint) (v : Value)
  | behaviors (target : Endpoint) (v : Value)
  | outcome (o : HookOutcome)

/-- A call on an engine that may set emissions off. -/
inductive Call where
  | emit (source : Endpoint) (v : Value)
  | sendInput (target : Endpoint) (v : Value)
  | applyEffects (component : String) (effects : List Effect)
  | applyBehavior (component behavior : String) (options : BehaviorOptions)
  | removeBehavior (id : String)

namespace Task

/-- Runs a task on an engine. -/
def run (e : Engine) : Task → Engine
  | .emission source v => e.emitSilently source v
  | .behaviors target v => Engine.runBehaviorsBy Engine.emitSilently e target v
  | .outcome o => Engine.applyOutcomeBy Engine.emitSilently e o

/-- The emissions that a task starts directly, each on the engine it meets. -/
def emissions (e : Engine) : Task → List Emission
  | .emission source v => [⟨e, source, v⟩]
  | .behaviors target v => e.behaviorEmissions target v
  | .outcome o => e.outcomeEmissions o

/-- A task is a flow. -/
theorem run_flows (e : Engine) (task : Task) : e.Flows (task.run e) := by
  cases task with
  | emission source v => exact e.emitSilently_flows source v
  | behaviors target v => exact Engine.runBehaviorsBy_flows Engine.emitSilently_flows e target v
  | outcome o => exact Engine.applyOutcomeBy_flows Engine.emitSilently_flows e o

/-- The emissions that a task starts are started by flows. -/
theorem flows_of_mem_emissions {e : Engine} {task : Task} {m : Emission}
    (h : m ∈ task.emissions e) : e.Flows m.engine := by
  cases task with
  | emission source v =>
      obtain rfl := List.mem_singleton.mp h
      exact .refl e
  | behaviors target v => exact Engine.flows_of_mem_behaviorEmissions h
  | outcome o => exact Engine.flows_of_mem_outcomeEmissions h

end Task

namespace Call

/-- The engine that a call leaves, however it ends. -/
def run (e : Engine) : Call → Engine
  | .emit source v => (e.emit source v).2
  | .sendInput target v => (e.sendInput target v).2
  | .applyEffects component effects => e.applyEffects component effects
  | .applyBehavior component behavior options => (e.applyBehavior component behavior options).2
  | .removeBehavior id => (e.removeBehavior id).2

/-- What a call does before anything is emitted, and the task that it runs then. A call that fails
runs none. -/
def open? (e : Engine) : Call → Option (Engine × Task)
  | .emit source v => some (e, .emission source v)
  | .sendInput target v =>
    match e.instances.setStateValue target.component target.point v with
    | (false, _) => none
    | (true, instances) =>
      some ({ e with instances }.record
        { kind := .connectionDataReceived, component := target.component
          payload := Engine.pointPayload target.point v }, .behaviors target v)
  | .applyEffects component effects => some (e, .outcome ⟨component, effects⟩)
  | .applyBehavior component behavior options =>
    match e.behaviors.apply component behavior options e.instances with
    | .error _ => none
    | .ok (id, outcome, behaviors) =>
      some ({ e with behaviors }.record
        { kind := .behaviorApplied, component
          payload := .obj [("appliedId", .str id), ("behavior", .str behavior)] },
        .outcome outcome)
  | .removeBehavior id =>
    match e.behaviors.unapply id e.instances with
    | .error _ => none
    | .ok (outcome, behaviors) =>
      some ({ e with behaviors }.record
        { kind := .behaviorRemoved, component := outcome.component
          payload := .obj [("appliedId", .str id)] }, .outcome outcome)

/-- The emissions that a call starts directly, each on the engine it meets. -/
def emissions (e : Engine) (call : Call) : List Emission :=
  match call.open? e with
  | none => []
  | some (e', task) => task.emissions e'

variable {e e' : Engine} {call : Call} {task : Task}

/-- A call that opens no task changes nothing. -/
theorem run_of_open?_eq_none (h : call.open? e = none) : call.run e = e := by
  cases call with
  | emit source v => cases h
  | sendInput target v =>
      rcases hs : e.instances.setStateValue target.component target.point v with ⟨_ | _, s⟩
      · rw [run, Engine.sendInput, hs]
      · rw [open?, hs] at h
        cases h
  | applyEffects component effects => cases h
  | applyBehavior component behavior options =>
      rcases hs : e.behaviors.apply component behavior options e.instances with err | ⟨id, o, b⟩
      · rw [run, Engine.applyBehavior, hs]
      · rw [open?, hs] at h
        cases h
  | removeBehavior id =>
      rcases hs : e.behaviors.unapply id e.instances with err | ⟨o, b⟩
      · rw [run, Engine.removeBehavior, hs]
      · rw [open?, hs] at h
        cases h

/-- A call that opens a task ends as the task does. Up to then it emits nothing, so that depth and
settings are the same. -/
theorem run_of_open?_eq_some (h : call.open? e = some (e', task)) :
    call.run e = task.run e' ∧ e'.emitDepth = e.emitDepth ∧ e'.config = e.config := by
  cases call with
  | emit source v =>
      obtain ⟨rfl, rfl⟩ := Prod.mk.inj (Option.some.inj h)
      exact ⟨rfl, rfl, rfl⟩
  | sendInput target v =>
      rcases hs : e.instances.setStateValue target.component target.point v with ⟨_ | _, s⟩
      · rw [open?, hs] at h
        cases h
      · rw [open?, hs] at h
        obtain ⟨rfl, rfl⟩ := Prod.mk.inj (Option.some.inj h)
        rw [run, Engine.sendInput, hs]
        exact ⟨rfl, rfl, rfl⟩
  | applyEffects component effects =>
      obtain ⟨rfl, rfl⟩ := Prod.mk.inj (Option.some.inj h)
      exact ⟨rfl, rfl, rfl⟩
  | applyBehavior component behavior options =>
      rcases hs : e.behaviors.apply component behavior options e.instances with err | ⟨id, o, b⟩
      · rw [open?, hs] at h
        cases h
      · rw [open?, hs] at h
        obtain ⟨rfl, rfl⟩ := Prod.mk.inj (Option.some.inj h)
        rw [run, Engine.applyBehavior, hs]
        exact ⟨rfl, rfl, rfl⟩
  | removeBehavior id =>
      rcases hs : e.behaviors.unapply id e.instances with err | ⟨o, b⟩
      · rw [open?, hs] at h
        cases h
      · rw [open?, hs] at h
        obtain ⟨rfl, rfl⟩ := Prod.mk.inj (Option.some.inj h)
        rw [run, Engine.removeBehavior, hs]
        exact ⟨rfl, rfl, rfl⟩

/-- A call leaves the emission depth as it was. -/
theorem emitDepth_run (e : Engine) (call : Call) : (call.run e).emitDepth = e.emitDepth := by
  cases h : call.open? e with
  | none => rw [run_of_open?_eq_none h]
  | some p =>
      obtain ⟨hrun, hdepth, -⟩ := run_of_open?_eq_some h
      rw [hrun, (p.2.run_flows p.1).emitDepth, hdepth]

/-- A call starts its emissions at the depth and under the limit of its engine. -/
theorem depth_of_mem_emissions {m : Emission} (h : m ∈ call.emissions e) :
    m.depth = e.emitDepth ∧ m.limit = e.config.runtime.maxEmitDepth := by
  rw [emissions] at h
  split at h
  · exact absurd h List.not_mem_nil
  · next hopen =>
      obtain ⟨-, hdepth, hconfig⟩ := run_of_open?_eq_some hopen
      have hflows := Task.flows_of_mem_emissions h
      refine ⟨hflows.emitDepth.trans hdepth, ?_⟩
      rw [Emission.limit, hflows.config, hconfig]

end Call

/-- **Emissions are bounded and balanced.** Take a call on an engine at rest whose limit is at least
1, over any connections. Every emission that it starts, directly or through others, follows the
rule of one pass, and no chain of emissions in one another goes on for ever. None starts beyond the
limit; one that starts at the limit is refused and changes nothing, every other one succeeds, and
each leaves the depth as it was. The call leaves the depth at zero, and an emission that is called
for from outside is never refused. -/
theorem emissions_bounded_and_balanced (e : Engine) (hrest : e.emitDepth = 0)
    (hlimit : 1 ≤ e.config.runtime.maxEmitDepth) (call : Call) :
    (∀ m ∈ call.emissions e, Acc (fun m' m => m.Starts m') m) ∧
    (∀ m ∈ call.emissions e, ∀ m', Relation.ReflTransGen Emission.Starts m m' →
      m'.run = Engine.emitBy Engine.emitSilently m'.engine m'.source m'.value ∧
      m'.depth ≤ e.config.runtime.maxEmitDepth ∧
      (m'.depth = e.config.runtime.maxEmitDepth →
        m'.run = (.error (.emitDepthExceeded (m'.depth + 1) m'.limit), m'.engine)) ∧
      (m'.depth < e.config.runtime.maxEmitDepth →
        ∃ deliveries, m'.run.1 = .ok deliveries) ∧
      m'.run.2.emitDepth = m'.depth) ∧
    (call.run e).emitDepth = 0 ∧
    ∀ source v, ∃ deliveries, (e.emit source v).1 = .ok deliveries := by
  refine ⟨fun m _ => m.acc_nested, fun m hm m' hreach => ?_, ?_, fun source v => ?_⟩
  · obtain ⟨hdepth, hsame⟩ := Call.depth_of_mem_emissions hm
    obtain ⟨hle, hlimit'⟩ := Emission.depth_le_of_reaches hreach (by omega)
    have hmax : m'.limit = e.config.runtime.maxEmitDepth := hlimit'.trans hsame
    refine ⟨Engine.emit_eq _ _ _, hmax ▸ hle, fun h => ?_, fun h => ?_, ?_⟩
    · exact Engine.emit_of_le (hmax.trans h.symm).le
    · exact Engine.emit_of_lt (h.trans_eq hmax.symm)
    · exact (m'.engine.emit_flows m'.source m'.value).emitDepth
  · rw [Call.emitDepth_run, hrest]
  · exact Engine.emit_of_lt (by omega)

/-- A text with a counter whose count is connected back to its increment. -/
def Engine.feedback : Engine :=
  { Engine.new {} with
    instances := { instances := [("t", { id := "t", kind := .text, properties := [] })] }
    graph := {
      connections := [(0, ⟨"c0", ⟨"t", "countChanged"⟩, ⟨"t", "increment"⟩, none⟩)]
      index := [("c0", 0)]
      next := 1 }
    behaviors := { BehaviorSystem.standard with
      applied := [⟨"a0", "counter", "t", Standard.counter.defaults⟩]
      next := 1 } }

/-- A value put into the loop of a counter that feeds itself comes to an end with the depth at
zero. -/
theorem feedback_bounded_and_balanced :
    Engine.feedback.emitDepth = 0 ∧ 1 ≤ Engine.feedback.config.runtime.maxEmitDepth ∧
      ((Call.sendInput ⟨"t", "increment"⟩ .null).run Engine.feedback).emitDepth = 0 :=
  ⟨rfl, by decide,
    (emissions_bounded_and_balanced Engine.feedback rfl (by decide)
      (.sendInput ⟨"t", "increment"⟩ .null)).2.2.1⟩

end WidgetFlow
