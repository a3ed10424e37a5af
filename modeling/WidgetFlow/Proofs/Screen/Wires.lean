import WidgetFlow.Proofs.Engine.Simple
import WidgetFlow.Proofs.Screen.InStep
import WidgetFlow.Proofs.Screen.Progress

/-!
# Wires become connections exactly once

A wire of an application waits until the nodes at its ends have been looked up, and then becomes a
connection, unless there is one between the same points already. Automatic connections follow when
no node waits. So no two connections ever lead between the same points (`Graph.Simple`), and after
resolving no wire waits any more.

Whether a wire became a connection depends on the instances at its ends. A definition may make its
instances in a way of its own, under another id, and then the node is ready and has no instance:
`Screen.Declares` asks for the instance and says which points it has.

## Main results

* `simple_perform`: operations on a screen keep its graph simple.
* `mem_ends_resolve`: a wire between points that are declared becomes a connection.
* `wired_once`: **wires become connections exactly once**.
-/

namespace WidgetFlow

namespace Screen

variable {s : Screen} {e : Engine} {types : Registry} {i : Nat} {n : Node} {id point : String}

/-! ### Statuses from the registry -/

/-- Operations keep nodes looked up. -/
theorem LookedUp.perform (h : LookedUp types s.arena) (hlinked : s.arena.Linked [])
    (hresolver : s.resolver = Registry.resolve) (htypes : s.engine.types = types) (op : ScreenOp) :
    LookedUp types (s.perform op).arena := by
  cases hresets : s.resets (.operate op) with
  | true =>
      obtain ⟨t, plans, heq⟩ := arena_move_of_resets hresets
      rw [show (s.perform op).arena = _ from heq]
      exact LookedUp.planted (fun i n hn => nomatch Arena.get?_empty.symm.trans hn) t 0 plans
  | false =>
      rcases arena_move_of_not_resets hresets with heq | ⟨plans, heq⟩ | hop | ⟨index, heq⟩
      · rwa [show (s.perform op).arena = _ from heq]
      · rw [show (s.perform op).arena = _ from heq]
        exact h.planted s _ plans
      · obtain rfl := ScreenMove.operate.inj hop
        exact fun i n hn => .inr (h.resolve hresolver htypes hn)
      · rw [show (s.perform op).arena = _ from heq]
        intro i m hm
        obtain ⟨-, n, hn, rfl⟩ := hlinked.of_get?_removeSubtree hm
        exact (h i n hn :)

/-! ### Making connections -/

/-- The node of an id is ready and has an instance of the kind of its definition, and its definition
or a behavior that is applied to it has a point. -/
def Declares (s : Screen) (id point : String) : Prop :=
  ∃ n d, s.arena.find? id = some n ∧ n.status = .ready d ∧
    (s.engine.instances.get? id).map (·.kind) = some d.kind ∧
    ((d.point? point).isSome = true ∨ (s.engine.behaviors.pointFor? id point).isSome = true)

/-- The points between which a wire is to lead. -/
def ends (w : Wire) : Endpoint × Endpoint :=
  (⟨w.sourceId, w.sourcePoint⟩, ⟨w.targetId, w.targetPoint⟩)

/-- Making the connection of a wire keeps a graph simple. -/
theorem simple_wire (h : e.graph.Simple) (w : Wire) : (wire e w).graph.Simple := by
  rw [wire]
  split
  · exact h
  · next hno => exact Engine.simple_connect h (fun hmem => hno (Graph.exists?_iff.mpr hmem)) _

/-- Making the connection of a wire keeps the connections and the points that are there. -/
theorem wire_keeps (e : Engine) (w : Wire) :
    e.graph.ends ⊆ (wire e w).graph.ends ∧ (wire e w).pointOf? = e.pointOf? := by
  rw [wire]
  split
  · exact ⟨List.Subset.refl _, rfl⟩
  · refine ⟨?_, Engine.pointOf?_connect e _ _ _⟩
    rcases e.ends_connect ⟨w.sourceId, w.sourcePoint⟩ ⟨w.targetId, w.targetPoint⟩ _ with heq | heq
    · exact heq ▸ List.Subset.refl _
    · exact heq ▸ List.subset_append_left _ _

/-- Between points that are there a wire becomes a connection. -/
theorem mem_ends_wire {w : Wire} (hsource : e.pointOf? w.sourceId w.sourcePoint ≠ none)
    (htarget : e.pointOf? w.targetId w.targetPoint ≠ none) :
    ends w ∈ (wire e w).graph.ends := by
  rw [wire]
  split
  · next hthere => exact Graph.exists?_iff.mp hthere
  · exact Engine.mem_ends_connect hsource htarget _

/-- Making the connections of wires in turn keeps the connections and the points that are there. -/
theorem foldl_wire_keeps (wires : List Wire) (e : Engine) :
    e.graph.ends ⊆ (wires.foldl wire e).graph.ends ∧
      (wires.foldl wire e).pointOf? = e.pointOf? :=
  List.foldlRecOn (motive := fun e' : Engine => e.graph.ends ⊆ e'.graph.ends ∧
    e'.pointOf? = e.pointOf?) wires wire ⟨List.Subset.refl _, rfl⟩
    fun e' h w _ => ⟨List.Subset.trans h.1 (wire_keeps e' w).1, (wire_keeps e' w).2.trans h.2⟩

/-- When connections are made of wires in turn, every wire between points that are there becomes
one. -/
theorem mem_ends_foldl_wire {wires : List Wire} {w : Wire} (hw : w ∈ wires)
    (hsource : e.pointOf? w.sourceId w.sourcePoint ≠ none)
    (htarget : e.pointOf? w.targetId w.targetPoint ≠ none) :
    ends w ∈ (wires.foldl wire e).graph.ends := by
  induction wires generalizing e with
  | nil => cases hw
  | cons v rest ih =>
      rcases List.mem_cons.mp hw with rfl | hw
      · exact (foldl_wire_keeps rest _).1 (mem_ends_wire hsource htarget)
      · have hpoints := (wire_keeps e v).2
        exact ih hw (hpoints ▸ hsource) (hpoints ▸ htarget)

/-- Making the automatic connections keeps a graph simple, and the connections and points. -/
theorem connectAutomatically_keeps (s : Screen) (h : s.engine.graph.Simple) :
    s.connectAutomatically.engine.graph.Simple ∧
      s.engine.graph.ends ⊆ s.connectAutomatically.engine.graph.ends ∧
      s.connectAutomatically.engine.pointOf? = s.engine.pointOf? := by
  rw [connectAutomatically]
  split
  · obtain ⟨hsimple, hsub⟩ := Engine.simple_autoConnect h _
    exact ⟨hsimple, hsub, Engine.pointOf?_autoConnect _ _⟩
  · exact ⟨h, List.Subset.refl _, rfl⟩

/-- Making the automatic connections makes no wire wait. -/
theorem wires_connectAutomatically (s : Screen) : s.connectAutomatically.wires = s.wires := by
  rw [connectAutomatically]
  split <;> rfl

/-- Making the instances makes no connection. -/
theorem simple_materialize (h : s.engine.graph.Simple) : s.materialize.engine.graph.Simple :=
  h.sublist (Engine.Rearranges.foldl (materializeAt_rearranges s.arena) _ _).sublist

/-- Making the connections of all wires that can be made keeps a graph simple. -/
theorem simple_connectWires (h : s.engine.graph.Simple) : s.connectWires.engine.graph.Simple :=
  List.foldlRecOn (motive := fun e : Engine => e.graph.Simple) _ wire h
    fun _ he w _ => simple_wire he w

/-- Resolving keeps a graph simple. -/
theorem simple_resolve (h : s.engine.graph.Simple) (hresolver : s.resolver = Registry.resolve) :
    s.resolve.2.engine.graph.Simple := by
  rw [resolve_eq hresolver]
  have hmade : (materialize { s with arena := s.resolve.2.arena }).engine.graph.Simple :=
    simple_materialize h
  exact (connectAutomatically_keeps _ (simple_connectWires hmade)).1

/-! ### Operations -/

/-- Operations keep a graph simple. -/
theorem simple_perform (h : s.engine.graph.Simple) (hresolver : s.resolver = Registry.resolve)
    (op : ScreenOp) : (s.perform op).engine.graph.Simple := by
  have hflows : ∀ {t : Screen}, s.engine.Flows t.engine → t.engine.graph.Simple := fun hf => by
    rwa [hf.graph]
  cases op with
  | mount plan => rwa [perform, engine_mount]
  | mountApp app => rwa [perform, engine_mountApp]
  | replaceTree plan =>
      rcases s.replaceTree_cases plan with heq | ⟨-, heq⟩
      · rwa [perform, heq]
      · rw [perform, heq]
        exact h.sublist (s.reconcile_rearranges [plan]).sublist
  | replaceApp app =>
      rcases s.replaceApp_cases app with heq | ⟨-, layout?, theme?, heq⟩
      · rwa [perform, heq]
      · rw [perform, heq]
        exact h.sublist (s.reconcile_rearranges app.components).sublist
  | resolve => exact simple_resolve h hresolver
  | render => rwa [perform, render_eq]
  | renderId id => rwa [perform, renderId_rest]
  | refresh ids => exact h
  | dispatch id event payload => exact hflows (s.dispatch_reacts id event payload).flows
  | invoke id method args => exact hflows (s.invoke_reacts id method args).flows
  | removeNode id => exact h.sublist (s.removeNode_rearranges id).sublist
  | unmount => exact h.sublist (removeInstances_rearranges _ _).sublist

/-- Operations keep the way to look up definitions. -/
theorem resolver_perform (s : Screen) (op : ScreenOp) : (s.perform op).resolver = s.resolver := by
  have hreacts : ∀ {t : Screen}, s.Reacts t → t.resolver = s.resolver := fun h => by rw [h.rest]
  cases op with
  | mount plan =>
      rcases s.mount_cases plan with heq | ⟨-, heq⟩
      · rw [perform, heq]
      · rw [perform, heq]
  | mountApp app =>
      rcases s.mountApp_cases app with heq | hids
      · rw [perform, heq]
      · obtain ⟨layout?, theme?, heq⟩ := mountApp_of_ok hids
        rw [perform, heq]
  | replaceTree plan =>
      rcases s.replaceTree_cases plan with heq | ⟨-, heq⟩
      · rw [perform, heq]
      · rw [perform, heq]
        rfl
  | replaceApp app =>
      rcases s.replaceApp_cases app with heq | ⟨-, layout?, theme?, heq⟩
      · rw [perform, heq]
      · rw [perform, heq]
        rfl
  | resolve =>
      obtain ⟨engine, wires, autoConnectPending, heq⟩ := s.resolve_rest
      rw [perform, heq]
  | render => rw [perform, render_eq]
  | renderId id => rw [perform, renderId_rest]
  | refresh ids => rfl
  | dispatch id event payload => exact hreacts (s.dispatch_reacts id event payload)
  | invoke id method args => exact hreacts (s.invoke_reacts id method args)
  | removeNode id =>
      rcases s.removeNode_cases id with heq | ⟨index, engine, memo, -, -, heq⟩
      · rw [perform, heq]
      · rw [perform, heq]
  | unmount => rfl

/-- The second screen comes from the first by operations: its nodes are looked up in the registry,
and no two of its connections lead between the same points. -/
structure Wired (start s : Screen) : Prop where
  resolver : s.resolver = Registry.resolve
  runs : start.engine.Runs false s.engine
  linked : s.arena.Linked []
  keyed : s.arena.Keyed
  lookedUp : LookedUp start.engine.types s.arena
  simple : s.engine.graph.Simple

namespace Wired

variable {start : Screen}

/-- Operations keep a screen wired. -/
theorem perform (h : Wired start s) (op : ScreenOp) : Wired start (s.perform op) where
  resolver := (s.resolver_perform op).trans h.resolver
  runs := h.runs.trans (s.runs_perform op (.inr h.resolver))
  linked := linked_run h.linked [.operate op]
  keyed := keyed_run h.keyed [.operate op]
  lookedUp := h.lookedUp.perform h.linked h.resolver h.runs.sameSetup.types op
  simple := simple_perform h.simple h.resolver op

/-- After resolving no node waits. -/
theorem isWaiting_resolve (h : Wired start s) {index : Nat}
    (hn : s.resolve.2.arena.get? index = some n) : n.status.isWaiting = false := by
  rw [h.lookedUp.resolve h.resolver h.runs.sameSetup.types hn, isWaiting_answered]

/-- When the instances have been made, no wire waits. -/
theorem isOpen_materialize (h : Wired start s) (w : Wire) :
    (materialize { s with arena := s.resolve.2.arena }).isOpen w = false := by
  have hidle : ∀ id, (materialize { s with arena := s.resolve.2.arena }).isWaiting id = false :=
    fun id => by
      change (((s.resolve.2.arena.find? id).map (·.status)).map Status.isWaiting).getD false = false
      cases hn : s.resolve.2.arena.find? id with
      | none => rfl
      | some n =>
          obtain ⟨index, hindex, -⟩ := (s.restated_resolve.keyed h.keyed).find?_iff.mp hn
          exact h.isWaiting_resolve hindex
  rw [isOpen, hidle, hidle, Bool.or_false]

/-- After resolving no wire waits. -/
theorem wires_resolve (h : Wired start s) : s.resolve.2.wires = [] := by
  rw [resolve_eq h.resolver, wires_connectAutomatically]
  exact List.filter_eq_nil_iff.mpr fun w _ => Bool.eq_false_iff.mp (h.isOpen_materialize w)

/-- After resolving there are the connections of all wires that waited, if their points are
there. -/
theorem mem_ends_resolve (h : Wired start s) {w : Wire} (hw : w ∈ s.wires)
    (hsource : s.resolve.2.engine.pointOf? w.sourceId w.sourcePoint ≠ none)
    (htarget : s.resolve.2.engine.pointOf? w.targetId w.targetPoint ≠ none) :
    ends w ∈ s.resolve.2.engine.graph.ends := by
  have hmade : (materialize { s with arena := s.resolve.2.arena }).engine.graph.Simple :=
    simple_materialize h.simple
  obtain ⟨-, hsub, hpoints⟩ := connectAutomatically_keeps _ (simple_connectWires hmade)
  rw [resolve_eq h.resolver] at hsource htarget ⊢
  rw [hpoints] at hsource htarget
  refine hsub (mem_ends_foldl_wire (List.mem_filter.mpr ⟨hw, ?_⟩) ?_ ?_)
  · rw [h.isOpen_materialize, Bool.not_false]
  · rwa [connectWires, (foldl_wire_keeps _ _).2] at hsource
  · rwa [connectWires, (foldl_wire_keeps _ _).2] at htarget

/-- After resolving a node that is ready has the definition that is registered for its kind. -/
theorem get?_of_ready (h : Wired start s) {index : Nat} {d : Definition}
    (hn : s.resolve.2.arena.get? index = some n) (hready : n.status = .ready d) :
    d.kind = n.kind ∧ start.engine.types.get? n.kind = some d := by
  have hstatus := h.lookedUp.resolve h.resolver h.runs.sameSetup.types hn
  rw [hready] at hstatus
  cases hanswer : start.engine.types.resolve n.kind with
  | error e =>
      rw [hanswer] at hstatus
      cases hstatus
  | ok found =>
      rw [hanswer] at hstatus
      obtain rfl := Status.ready.inj hstatus
      exact kind_of_resolve hanswer

/-- A point that a ready node has by its instance is there. -/
theorem pointOf?_of_declares (h : Wired start s) (hdeclares : s.resolve.2.Declares id point) :
    s.resolve.2.engine.pointOf? id point ≠ none := by
  obtain ⟨n, d, hn, hready, hinstance, hpoint⟩ := hdeclares
  obtain ⟨index, hindex, -⟩ := (s.restated_resolve.keyed h.keyed).find?_iff.mp hn
  obtain ⟨hkind, hget⟩ := h.get?_of_ready hindex hready
  obtain ⟨i, hi, hikind⟩ := Option.map_eq_some_iff.mp hinstance
  have htypes : s.resolve.2.engine.types = start.engine.types :=
    (h.perform .resolve).runs.sameSetup.types
  rw [Engine.pointOf?, hi]
  dsimp only
  rw [hikind, hkind, htypes, hget, Option.bind_some]
  cases hfound : d.point? point with
  | some p => exact Option.some_ne_none p
  | none =>
      rw [hfound] at hpoint
      obtain ⟨p, hp⟩ := Option.isSome_iff_exists.mp (hpoint.resolve_left Bool.false_ne_true)
      rw [Option.orElse_none, hp]
      exact Option.some_ne_none p

end Wired

/-- A screen without nodes and connections is wired. -/
theorem wired_initial (config : Config) (definitions : List Definition)
    (behaviors : List Behavior) :
    Wired (initial config definitions behaviors) (initial config definitions behaviors) where
  resolver := rfl
  runs := .refl _
  linked := .empty
  keyed := .empty
  lookedUp _ _ hn := nomatch Arena.get?_empty.symm.trans hn
  simple := by
    have hgraph : (initial config definitions behaviors).engine.graph = {} :=
      List.foldlRecOn (motive := fun e : Engine => e.graph = {}) behaviors Engine.registerBehavior
        (List.foldlRecOn (motive := fun e : Engine => e.graph = {}) definitions
          Engine.registerType rfl fun _ he _ _ => he) fun _ he _ _ => he
    rw [hgraph]
    exact List.nodup_nil

/-- **Wires become connections exactly once.** Take any run of operations on a screen over an engine
that has some definitions and some behaviors, with automatic connections or without.

No two connections lead between the same points. After resolving no wire waits. Every wire that
waited before, whose ends are ready and have their instances, and whose points belong to the
definitions or to behaviors that are applied, has exactly one connection. Nodes that are ready have
their instances unless some definition makes its instances in a way of its own. -/
theorem wired_once (config : Config) (definitions : List Definition) (behaviors : List Behavior)
    (ops : List ScreenOp) :
    let s := ops.foldl perform (initial config definitions behaviors)
    s.engine.graph.Simple ∧ s.resolve.2.wires = [] ∧
    (∀ w ∈ s.wires, s.resolve.2.Declares w.sourceId w.sourcePoint →
      s.resolve.2.Declares w.targetId w.targetPoint →
        s.resolve.2.engine.graph.ends.count (ends w) = 1) ∧
    ((∀ d ∈ definitions, d.instantiate? = none) → ∀ {index n d},
      s.resolve.2.arena.get? index = some n → n.status = .ready d →
        (s.resolve.2.engine.instances.get? n.id).map (·.kind) = some d.kind) := by
  intro s
  have h : Wired (initial config definitions behaviors) s :=
    List.foldlRecOn ops perform (wired_initial config definitions behaviors)
      fun _ h op _ => h.perform op
  refine ⟨h.simple, h.wires_resolve, fun w hw hsource htarget => ?_,
    fun hplain index n d hn hd => ?_⟩
  · exact List.count_eq_one_of_mem (simple_resolve h.simple h.resolver)
      (h.mem_ends_resolve hw (h.pointOf?_of_declares hsource) (h.pointOf?_of_declares htarget))
  · have hfaithful : ∀ d ∈ definitions, d.Faithful := fun d hd id properties =>
      (Definition.instantiate_of_plain (hplain d hd) id properties).1
    have hblank := blank_initial config behaviors hfaithful
    have htracked := (hblank.tracked.run hblank.engine.sane (plain_initial config behaviors hplain)
      ops).resolve hblank.engine.sane (plain_initial config behaviors hplain)
    obtain ⟨i, hi, hstands⟩ := htracked.ready hn (by rw [hd]; rfl)
    rw [hi, Option.map_some, hstands.kind, (h.get?_of_ready hn hd).1]

/-- A component with an output and an input, and its own way to make instances, if any. -/
def relay (instantiate? : Option (String → Kind → Dict Value → Instance)) : Definition where
  kind := .other "relay"
  capabilities := [⟨"signal", [.output "out" .any, .input "in" .any]⟩]
  instantiate? := instantiate?

/-- A wire from the output of a relay back to its input. -/
def backLink : Wire := ⟨"r", "out", "r", "in", none⟩

/-- An application of one relay whose output is wired to its input. -/
def loopApp : AppPlan where
  components := [{ info := { id? := some "r", tag := "relay" }, children := [] }]
  wires := [backLink]

/-- A relay whose output is wired to its input has the connection. -/
theorem wired_once_loop :
    let s := [ScreenOp.mountApp loopApp].foldl perform (initial {} [relay none] [])
    backLink ∈ s.wires ∧ s.resolve.2.Declares "r" "out" ∧ s.resolve.2.Declares "r" "in" ∧
      s.resolve.2.engine.graph.ends.count (ends backLink) = 1 := by
  intro s
  have h := wired_once {} [relay none] [] [.mountApp loopApp]
  have hs : s = _ := @mountApp_leaf (initial {} [relay none] [])
    { id? := some "r", tag := "relay" } [backLink] (.other "relay") rfl (by decide +kernel)
  have hwire : backLink ∈ s.wires := by
    rw [hs]
    exact List.mem_singleton_self _
  have hout : s.resolve.2.Declares "r" "out" := by
    rw [hs]
    refine ⟨_, relay none, rfl, rfl, ?_, .inl rfl⟩
    decide +kernel
  have hin : s.resolve.2.Declares "r" "in" := by
    rw [hs]
    refine ⟨_, relay none, rfl, rfl, ?_, .inl rfl⟩
    decide +kernel
  exact ⟨hwire, hout, hin, h.2.2.1 _ hwire hout hin⟩

/-- A relay that makes its instance under another id has no instance, although it is ready and its
definition has the points. Its wire waits no more and is not a connection. -/
theorem wired_once_renamed :
    let d := relay (some fun id kind properties => { id := id ++ "!", kind, properties })
    let s := [ScreenOp.mountApp loopApp].foldl perform (initial {} [d] [])
    backLink ∈ s.wires ∧ (d.point? "out").isSome ∧ (d.point? "in").isSome ∧
      (s.resolve.2.arena.find? "r").map (·.status) = some (.ready d) ∧
        s.resolve.2.engine.graph.ends.count (ends backLink) = 0 := by
  intro d s
  have hs : s = _ := @mountApp_leaf (initial {} [d] [])
    { id? := some "r", tag := "relay" } [backLink] (.other "relay") rfl (by decide +kernel)
  rw [hs]
  exact ⟨List.mem_singleton_self _, rfl, rfl, rfl, by decide +kernel⟩

end Screen

end WidgetFlow
