import WidgetFlow.Proofs.Screen.Replacement
import WidgetFlow.Proofs.Screen.Standing

/-!
# The engine is in step with the tree

A screen keeps its components twice: as nodes of its tree, and as instances of its engine. The two
are changed in different places, and nodes wait for their definitions while instances of theirs may
be there from before, or may be missing. `Screen.InStep` says how the two agree nevertheless, in
every state: instances belong to mounted nodes, and a node that is ready has an instance that stands
for it.

What carries this through all operations is `Tracked`. Two of its parts say more than is asked for:
every node waits or has the status that the registry gives for its kind, and an instance has the
kind of its node even while the node waits. So when a tree was replaced and its nodes are looked up,
the instances that stayed fit their nodes, and none is left at a node that has no definition.

## Main results

* `Tracked.planted`, `Tracked.replaced`, `Tracked.resolve`, `Tracked.removeNode`: the operations
  that change the tree.
* `Tracked.resolved_resolve`: after resolving, the instances are those of the ready nodes.
* `inStep_run`: **the engine is in step with the tree** after every run of operations.
-/

namespace WidgetFlow.Screen

variable {s s' start : Screen} {n : Node} {index k : Nat} {id : String} {plans : List NodePlan}

/-- The engine of a screen is in step with its tree. -/
structure InStep (s : Screen) : Prop where
  /-- Every instance stands under its own id, which is the id of a mounted node. -/
  owned : ∀ {id i}, s.engine.instances.get? id = some i → i.id = id ∧ ∃ index, s.arena.Has index id
  /-- Every node that is ready has an instance that stands for it. -/
  ready : ∀ {index n}, s.arena.get? index = some n → n.status.isReady = true →
    Placed s.arena s.engine n

/-- The nodes of registered kinds are ready, and the instances are those of these nodes. -/
structure Resolved (s : Screen) : Prop where
  /-- Exactly the nodes whose kinds are registered are ready. -/
  ready : ∀ {index n}, s.arena.get? index = some n →
    (n.status.isReady = true ↔ s.engine.types.contains n.kind = true)
  /-- Exactly the ids of nodes that are ready have instances. -/
  instances : ∀ id, s.engine.instances.contains id = true ↔
    ∃ index n, s.arena.get? index = some n ∧ n.id = id ∧ n.status.isReady = true

/-- The instances of a screen belong to its nodes and have their kinds, nodes wait or have the
statuses that the registry gives, and instances of nodes that are ready stand for them. -/
structure Tracked (start s : Screen) : Prop extends Owned start s where
  linked : s.arena.Linked []
  status : ∀ {index n}, s.arena.get? index = some n →
    n.status = .loading ∨ n.status = answered (start.engine.types.resolve n.kind)
  typed : ∀ {index n i}, s.arena.get? index = some n → s.engine.instances.get? n.id = some i →
    i.kind = n.kind ∧ start.engine.types.contains n.kind = true
  ready : ∀ {index n}, s.arena.get? index = some n → n.status.isReady = true →
    Placed s.arena s.engine n

namespace Tracked

/-! ### Removing -/

/-- The instance of a node that is left is that of before, or has been told its children. -/
theorem get?_removeNode (h : Tracked start s) (hstart : Sane start.engine)
    (hindex : s.arena.indexOf? id = some index) (hn : s.arena.get? k = some n)
    (hk : k ∉ s.arena.subtree index) :
    ∃ change : Instance → Instance, (s.removeNode id).2.engine.instances.get? n.id =
        (s.engine.instances.get? n.id).map change ∧
      (∀ i, (change i).kind = i.kind) ∧
      ∀ i, i.StandsFor s.arena n →
        (change i).StandsFor (s.arena.removeSubtree index).2 (n.without index) := by
  obtain ⟨memo, heq⟩ := removeNode_of_index hindex
  have hleft := h.linked.get?_removeSubtree_of_not_mem hn hk
  have hid : n.id ∉ (s.arena.removeSubtree index).1.map (·.id) := fun hmem =>
    hk ((h.keyed.mem_removed_iff hn).mp hmem)
  have hbefore := (Engine.get?_removeInstances (h.sane hstart).closed
    ((s.arena.removeSubtree index).1.map (·.id)) n.id).trans (if_neg hid)
  have habove : ∀ i : Instance, i.StandsFor s.arena n →
      Option.Rel (s.arena.removeSubtree index).2.Has n.parent? i.parent := fun i hi =>
    rel_of_imp hi.parent (h.linked.has_parent_removeSubtree hn hk)
  rw [heq]
  dsimp only
  by_cases hparent : (s.arena.get? index).bind (·.parent?) = some k
  · -- the removed node was a child of this one
    have hp := (h.keyed.parentId?_iff hn).mpr hparent
    have hindexOf : (s.arena.removeSubtree index).2.indexOf? n.id = some k :=
      (h.keyed.removeSubtree index).indexOf?_iff.mpr ⟨_, hleft, rfl⟩
    rw [hp, get?_relink hindexOf, hbefore]
    exact ⟨_, rfl, fun _ => rfl, fun i hi => ⟨hi.id, hi.kind, habove i hi,
      (h.linked.removeSubtree index).forall₂_childIds hleft⟩⟩
  · -- the removed node was no child of this one, so the children stay
    have hp : s.arena.parentId? index ≠ some n.id := mt (h.keyed.parentId?_iff hn).mp hparent
    have hchild : index ∉ n.childNodes := fun hmem => hparent (h.linked.parent?_of_mem hn hmem)
    rw [get?_relink_of_ne hp, hbefore, Node.without_eq_self hchild]
    refine ⟨_, Option.map_id'.symm, fun _ => rfl, fun i hi => ⟨hi.id, hi.kind, habove i hi, ?_⟩⟩
    exact forall₂_of_imp hi.children fun hc =>
      h.linked.has_child_removeSubtree hn hk hc fun heq => hchild (heq ▸ hc)

/-- What is left after a removal is tracked. -/
theorem removeNode (h : Tracked start s) (hstart : Sane start.engine) (id : String) :
    Tracked start (s.removeNode id).2 := by
  cases hindex : s.arena.indexOf? id with
  | none =>
      rw [Screen.removeNode, hindex]
      exact h
  | some index =>
      have harena : (s.removeNode id).2.arena = (s.arena.removeSubtree index).2 := by
        obtain ⟨memo, heq⟩ := removeNode_of_index hindex
        rw [heq]
      refine ⟨h.toOwned.removeNode hstart id, ?_, fun hm => ?_, fun hm hi => ?_,
        fun hm hready => ?_⟩
      · rw [harena]
        exact h.linked.removeSubtree index
      · rw [harena] at hm
        obtain ⟨-, n, hn, rfl⟩ := h.linked.of_get?_removeSubtree hm
        exact (h.status hn :)
      · rw [harena] at hm
        obtain ⟨hk, n, hn, rfl⟩ := h.linked.of_get?_removeSubtree hm
        obtain ⟨change, hget, hkind, -⟩ := h.get?_removeNode hstart hindex hn hk
        obtain ⟨j, hj, rfl⟩ := Option.map_eq_some_iff.mp (hget.symm.trans hi)
        exact ⟨(hkind j).trans (h.typed hn hj).1, (h.typed hn hj).2⟩
      · rw [harena] at hm ⊢
        obtain ⟨hk, n, hn, rfl⟩ := h.linked.of_get?_removeSubtree hm
        obtain ⟨change, hget, -, hstands⟩ := h.get?_removeNode hstart hindex hn hk
        obtain ⟨j, hj, hstand⟩ := h.ready hn hready
        exact ⟨change j, hget.trans (by rw [hj, Option.map_some]), hstands j hstand⟩

/-! ### Events and methods -/

/-- Values that go through the engine leave every instance at its place. -/
theorem reacts (h : Tracked start s) (hreacts : s.Reacts s') : Tracked start s' := by
  have harena : s'.arena = s.arena := by rw [hreacts.rest]
  have hwrites := hreacts.flows.writes
  refine ⟨h.toOwned.reacts hreacts, ?_, ?_, fun hn hi => ?_, fun hn hready => ?_⟩
  · rw [harena]
    exact h.linked
  · rw [harena]
    exact h.status
  · rw [harena] at hn
    obtain ⟨j, hj⟩ := Store.contains_iff.mp
      ((hwrites.contains _).symm.trans (Store.contains_iff.mpr ⟨_, hi⟩))
    obtain ⟨i', hi', hplace⟩ := hwrites.get? hj
    obtain rfl := Option.some.inj (hi.symm.trans hi')
    exact ⟨hplace.kind.trans (h.typed hn hj).1, (h.typed hn hj).2⟩
  · rw [harena] at hn ⊢
    obtain ⟨i, hi, hstands⟩ := h.ready hn hready
    obtain ⟨j, hj, hplace⟩ := hwrites.get? hi
    exact ⟨j, hj, hstands.samePlace hplace⟩

/-! ### Mounting and replacing -/

/-- Trees that are mounted behind those that are there wait, and change nothing for the others. -/
theorem planted (h : Tracked start s) {position : Nat} (howned : Owned start s')
    (hids : checkIds s.arena.containsId position plans = .ok ())
    (harena : s'.arena = s.planted s.arena position plans) (hengine : s'.engine = s.engine) :
    Tracked start s' := by
  have hcases : ∀ {index n}, s'.arena.get? index = some n →
      (∃ m, s.arena.get? index = some m ∧ n = { m with status := awaited m.status }) ∨
        s.engine.instances.get? n.id = none ∧ n.status = .loading := fun {index n} hn => by
    rw [harena] at hn
    rcases Nat.lt_or_ge index s.arena.slots.length with hlt | hge
    · rw [get?_planted_of_lt hlt] at hn
      obtain ⟨m, hm, rfl⟩ := Option.map_eq_some_iff.mp hn
      exact .inl ⟨m, hm, rfl⟩
    · obtain ⟨hid, hstatus⟩ := of_get?_planted hge hn
      refine .inr ⟨Store.contains_eq_false_iff.mp (Bool.eq_false_iff.mpr fun hthere => ?_), hstatus⟩
      exact nomatch (h.owned hthere).symm.trans ((checkIds_eq_ok.mp hids).2 _ hid)
  have hhas : ∀ {index id}, s.arena.Has index id → s'.arena.Has index id := by
    rintro index _ ⟨m, hm, rfl⟩
    refine ⟨{ m with status := awaited m.status }, ?_, rfl⟩
    rw [harena, get?_planted_of_lt (Arena.lt_of_get? hm), hm, Option.map_some]
  refine ⟨howned, ?_, fun hn => ?_, fun hn hi => ?_, fun hn hready => ?_⟩
  · rw [harena]
    exact linked_planted h.linked position plans
  · rw [harena] at hn
    exact LookedUp.planted (fun _ _ => h.status) s position plans _ _ hn
  · rw [hengine] at hi
    obtain ⟨m, hm, rfl⟩ | ⟨hnone, -⟩ := hcases hn
    · exact (h.typed hm hi :)
    · exact nomatch hnone.symm.trans hi
  · rw [hengine]
    obtain ⟨m, hm, rfl⟩ | ⟨-, hstatus⟩ := hcases hn
    · obtain ⟨i, hi, hstands⟩ := h.ready hm (isReady_awaited.symm.trans hready)
      exact ⟨i, hi, (hstands.imp (fun _ => hhas) fun _ => hhas).restate _⟩
    · rw [hstatus] at hready
      exact nomatch hready

/-- An instance that is left when a tree is replaced has the kind that is planned for its id. -/
theorem kept_reconcile (h : Tracked start s) (hstart : Sane start.engine) {i : Instance}
    (hi : (s.reconcile plans).engine.instances.get? id = some i) :
    (Dict.get? (plannedNodes s.engine.kindOf plans) id).map (·.1) = some i.kind ∧
      start.engine.types.contains i.kind = true := by
  have hthere : (s.reconcile plans).engine.instances.contains id = true :=
    Store.contains_iff.mpr ⟨i, hi⟩
  obtain ⟨-, m, hm, rfl, hstays⟩ := h.stays_of_contains hstart hthere
  obtain ⟨properties, -, hbare, -⟩ := reconcileNodes_of_stays (h.sane hstart).closed
    h.keyed.nodup_ids hm hstays
  have hsome : (s.reconcile plans).engine.instances.bare? m.id = some i.bare := by
    rw [Store.bare?, hi, Option.map_some]
  -- the instance was there before, and only its properties have been written
  obtain ⟨_, hbefore, hput⟩ := Option.map_eq_some_iff.mp (hbare.symm.trans hsome)
  obtain ⟨j, hj, rfl⟩ := Option.map_eq_some_iff.mp hbefore
  obtain ⟨⟨l, m⟩, hlive, rfl⟩ := List.mem_map.mp hm
  obtain ⟨hkind, hknown⟩ := h.typed (Arena.mem_live.mp hlive) hj
  rw [Instance.putAll_eq] at hput
  have hsame : i.kind = m.kind := (congrArg Instance.kind hput).symm.trans hkind
  rw [hsame]
  exact ⟨hstays, hknown⟩

/-- When trees are replaced, all nodes wait, and the instances that stay have their kinds. -/
theorem replaced (h : Tracked start s) (hstart : Sane start.engine) (howned : Owned start s')
    (hids : checkIds (fun _ => false) 0 plans = .ok ())
    (harena : s'.arena = (s.reconcile plans).planted {} 0 plans)
    (hengine : s'.engine = (s.reconcile plans).engine) : Tracked start s' := by
  have hloading : ∀ {index n}, s'.arena.get? index = some n → n.status = .loading := fun hn => by
    rw [harena] at hn
    exact status_planted hn
  refine ⟨howned, ?_, fun hn => .inl (hloading hn), fun {index n i} hn hi => ?_,
    fun hn hready => ?_⟩
  · rw [harena]
    exact linked_planted .empty 0 plans
  · rw [hengine] at hi
    obtain ⟨hplanned, hknown⟩ := h.kept_reconcile hstart hi
    have hruns : s.engine.Runs false (s.reconcile plans).engine := s.reconcile_runs plans
    have hfound : s'.arena.find? n.id = some n := howned.keyed.find?_iff.mpr ⟨index, hn, rfl⟩
    have hnode : (Dict.get? (plannedNodes s.engine.kindOf plans) n.id).map (·.1) = some n.kind := by
      rw [← hruns.sameSetup.kindOf, ← find?_planted hids, ← harena, hfound]
      rfl
    have hsame : i.kind = n.kind := Option.some.inj (hplanned.symm.trans hnode)
    exact ⟨hsame, hsame ▸ hknown⟩
  · rw [hloading hn] at hready
    exact nomatch hready

/-! ### Resolving -/

/-- When a tree is resolved, no node waits any more. -/
theorem settled_resolve (h : Tracked start s) :
    s.resolve.2.arena.Settled start.engine.types where
  linked := s.restated_resolve.linked h.linked
  keyed := s.restated_resolve.keyed h.keyed
  status hn := LookedUp.resolve (fun _ _ => h.status) h.resolver h.runs.sameSetup.types hn

/-- Before the instances are made, those that are there have the kinds of their nodes. -/
theorem fit_resolve (h : Tracked start s) (hstart : Sane start.engine) :
    Fit start.engine.types s.resolve.2.arena s.engine where
  sane := h.sane hstart
  typed {index n i} hn hi := by
    rw [s.restated_resolve.get?] at hn
    obtain ⟨m, hm, rfl⟩ := Option.map_eq_some_iff.mp hn
    exact (h.typed hm hi :)
  types := h.runs.sameSetup.types

/-- Resolving makes the instances of all nodes that are ready stand for them. -/
theorem resolve (h : Tracked start s) (hstart : Sane start.engine)
    (hplain : start.engine.types.Plain) : Tracked start s.resolve.2 where
  toOwned := h.toOwned.resolve hstart
  linked := h.settled_resolve.linked
  status hn := .inr (h.settled_resolve.status hn)
  typed {index n i} hn hi := by
    rw [instances_resolve h.resolver] at hi
    exact (materialize_fit h.settled_resolve hplain (h.fit_resolve hstart) _).typed hn hi
  ready {index n} hn hready := by
    rw [Placed, instances_resolve h.resolver]
    exact materialize_placed h.settled_resolve hplain (h.fit_resolve hstart)
      (h.settled_resolve.linked.mem_order hn) hn hready

/-- After resolving, the nodes of registered kinds are ready, and the instances are theirs. -/
theorem resolved_resolve (h : Tracked start s) (hstart : Sane start.engine)
    (hplain : start.engine.types.Plain) : s.resolve.2.Resolved := by
  have hresolved := h.resolve hstart hplain
  have hready : ∀ {index n}, s.resolve.2.arena.get? index = some n →
      (n.status.isReady = true ↔ start.engine.types.contains n.kind = true) := fun hn => by
    rw [h.settled_resolve.status hn, isReady_answered]
  refine ⟨fun hn => ?_, fun id => ⟨fun hthere => ?_, ?_⟩⟩
  · rw [hresolved.runs.sameSetup.types]
    exact hready hn
  · obtain ⟨i, hi⟩ := Store.contains_iff.mp hthere
    obtain ⟨index, n, hn, rfl⟩ := hresolved.keyed.containsId_iff.mp (hresolved.owned hthere)
    exact ⟨index, n, hn, rfl, (hready hn).mpr (hresolved.typed hn hi).2⟩
  · rintro ⟨index, n, hn, rfl, hnready⟩
    obtain ⟨i, hi, -⟩ := hresolved.ready hn hnready
    exact Store.contains_iff.mpr ⟨i, hi⟩

/-! ### All operations -/

/-- Every operation keeps a screen tracked. -/
theorem perform (h : Tracked start s) (hstart : Sane start.engine)
    (hplain : start.engine.types.Plain) (op : ScreenOp) : Tracked start (s.perform op) := by
  have howned := h.toOwned.perform hstart op
  cases op with
  | mount plan =>
      rcases s.mount_cases plan with heq | ⟨hids, heq⟩
      · rwa [Screen.perform, heq]
      · rw [Screen.perform, heq] at howned ⊢
        exact h.planted howned hids rfl rfl
  | mountApp app =>
      rcases s.mountApp_cases app with heq | hids
      · rwa [Screen.perform, heq]
      · obtain ⟨layout?, theme?, heq⟩ := mountApp_of_ok hids
        rw [Screen.perform, heq] at howned ⊢
        exact h.planted howned hids rfl rfl
  | replaceTree plan =>
      rcases s.replaceTree_cases plan with heq | ⟨hids, heq⟩
      · rwa [Screen.perform, heq]
      · rw [Screen.perform, heq] at howned ⊢
        exact h.replaced hstart howned hids rfl rfl
  | replaceApp app =>
      rcases s.replaceApp_cases app with heq | ⟨hids, layout?, theme?, heq⟩
      · rwa [Screen.perform, heq]
      · rw [Screen.perform, heq] at howned ⊢
        exact h.replaced hstart howned hids rfl rfl
  | resolve => exact h.resolve hstart hplain
  | render =>
      rw [Screen.perform, render_eq] at howned ⊢
      exact ⟨howned, h.linked, h.status, h.typed, h.ready⟩
  | renderId id =>
      rw [Screen.perform, renderId_rest] at howned ⊢
      exact ⟨howned, h.linked, h.status, h.typed, h.ready⟩
  | refresh ids => exact h.reacts (s.refresh_reacts ids)
  | dispatch id event payload => exact h.reacts (s.dispatch_reacts id event payload)
  | invoke id method args => exact h.reacts (s.invoke_reacts id method args)
  | removeNode id => exact h.removeNode hstart id
  | unmount =>
      have hnone : ∀ {index n}, ({} : Arena).get? index = some n → False := fun hn => by
        cases Arena.get?_empty.symm.trans hn
      exact ⟨howned, .empty, fun hn => (hnone hn).elim, fun hn => (hnone hn).elim,
        fun hn => (hnone hn).elim⟩

/-- Every run of operations keeps a screen tracked. -/
theorem run (h : Tracked start s) (hstart : Sane start.engine)
    (hplain : start.engine.types.Plain) (ops : List ScreenOp) :
    Tracked start (ops.foldl Screen.perform s) :=
  List.foldlRecOn ops Screen.perform h fun _ h op _ => h.perform hstart hplain op

/-- A screen that is tracked is in step. -/
theorem inStep (h : Tracked start s) (hstart : Sane start.engine) : s.InStep where
  owned {id i} hi := by
    obtain ⟨index, n, hn, rfl⟩ :=
      h.keyed.containsId_iff.mp (h.owned (Store.contains_iff.mpr ⟨i, hi⟩))
    exact ⟨(h.sane hstart).closed.indexed.id_eq hi, index, n, hn, rfl⟩
  ready := h.ready

end Tracked

/-- A screen without nodes and without instances is tracked. -/
theorem Blank.tracked {config : Config} (h : start.Blank config) : Tracked start start := by
  have hnone : ∀ {index n}, start.arena.get? index = some n → False := fun {index n} hn => by
    rw [h.arena] at hn
    exact nomatch Arena.get?_empty.symm.trans hn
  refine ⟨h.mirror.toOwned, ?_, fun hn => (hnone hn).elim, fun hn => (hnone hn).elim,
    fun hn => (hnone hn).elim⟩
  rw [h.arena]
  exact .empty

/-- A screen starts with no other definitions than those that it is given. -/
theorem plain_initial (config : Config) {definitions : List Definition} (behaviors : List Behavior)
    (h : ∀ d ∈ definitions, d.instantiate? = none) :
    (initial config definitions behaviors).engine.types.Plain := by
  have htypes : ∀ d ∈ (definitions.foldl Engine.registerType (Engine.new config)).types.definitions,
      d.instantiate? = none :=
    List.foldlRecOn (motive := fun e : Engine => ∀ d ∈ e.types.definitions, d.instantiate? = none)
      definitions _ (fun _ hd => absurd hd List.not_mem_nil) fun _ he _ hd =>
        Registry.forall_register (h _ hd) he
  have hbehaviors : (initial config definitions behaviors).engine.types =
      (definitions.foldl Engine.registerType (Engine.new config)).types :=
    List.foldlRecOn (motive := fun e : Engine => e.types =
      (definitions.foldl Engine.registerType (Engine.new config)).types)
      behaviors Engine.registerBehavior rfl fun _ he _ _ => he
  intro kind d hget
  rw [hbehaviors] at hget
  exact htypes d (List.mem_of_find?_eq_some hget)

/-- **The engine is in step with the tree.** Take any run of operations on a screen over an engine
that has some definitions, none of which makes its instances in a way of its own, and some
behaviors. Then every instance belongs to a mounted node, and every node that is ready has an
instance of its id and its kind, whose parent and children are those of the node. Once the tree is
resolved, the nodes of registered kinds are ready, and exactly these have instances. -/
theorem inStep_run (config : Config) (definitions : List Definition) (behaviors : List Behavior)
    (hplain : ∀ d ∈ definitions, d.instantiate? = none) (ops : List ScreenOp) :
    let s := ops.foldl perform (initial config definitions behaviors)
    s.InStep ∧ s.resolve.2.Resolved := by
  intro s
  have hfaithful : ∀ d ∈ definitions, d.Faithful := fun d hd id properties =>
    (Definition.instantiate_of_plain (hplain d hd) id properties).1
  have hblank := blank_initial config behaviors hfaithful
  have htypes : (initial config definitions behaviors).engine.types.Plain :=
    plain_initial config behaviors hplain
  have h : Tracked (initial config definitions behaviors) s :=
    hblank.tracked.run hblank.engine.sane htypes ops
  exact ⟨h.inStep hblank.engine.sane, h.resolved_resolve hblank.engine.sane htypes⟩

/-- A draft that was resolved is replaced by its revision, which loses its first text. -/
theorem inStep_revised :
    let ops := [.mount draft, .resolve, .replaceTree revised, .resolve, .removeNode "t1"]
    let s := ops.foldl perform (initial {} Catalog.definitions [])
    s.InStep ∧ s.resolve.2.Resolved :=
  inStep_run {} Catalog.definitions [] instantiate?_catalog
    [.mount draft, .resolve, .replaceTree revised, .resolve, .removeNode "t1"]

end WidgetFlow.Screen
