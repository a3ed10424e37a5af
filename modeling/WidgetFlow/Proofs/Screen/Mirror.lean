import WidgetFlow.Proofs.Screen.Materialize
import WidgetFlow.Proofs.Screen.Reconcile
import WidgetFlow.Proofs.Tree.Ids

/-!
# Instances belong to mounted nodes

If definitions are looked up in the registry, the instances of a screen are those of its nodes:
`Owned start s` says that the screen `s` comes from `start` by operations that register nothing,
that every id leads to its node, and that every instance stands under the id of a mounted node.
`Mirror start s` adds that no automatic connection is to be made.

## Main results

* `resolve_of_idle`: what resolving does to the engine when nothing is to be connected.
* `Owned.perform`: every operation keeps the instances at the mounted nodes.
* `Mirror.run`: every run of operations does so, and asks for no automatic connections if these are
  off.
-/

namespace WidgetFlow

namespace Arena

variable {a b : Arena} {status : Nat → Node → Status} {id : String}

/-- The ids that are taken are those of the nodes. -/
theorem Keyed.mem_names (h : a.Keyed) : id ∈ a.names ↔ a.containsId id = true :=
  h.containsId_iff.symm

/-- No two nodes have the same id. -/
theorem Keyed.nodup_ids (h : a.Keyed) : ((a.live.map (·.2)).map (·.id)).Nodup := by
  rw [List.map_map]
  refine List.Nodup.map_on (fun x hx y hy heq => ?_) a.nodup_live.of_map
  have hi := mem_live.mp hx
  have hj := mem_live.mp hy
  have hnumber := h.unique hi hj heq
  rw [hnumber, hj] at hi
  exact Prod.ext hnumber (Option.some.inj hi).symm

/-- The ids of the nodes are those that are taken. -/
theorem Keyed.mem_ids (h : a.Keyed) :
    id ∈ (a.live.map (·.2)).map (·.id) ↔ a.containsId id = true := by
  rw [h.containsId_iff, List.map_map]
  exact Arena.mem_ids

/-- The ids of the removed nodes are those of the nodes below the removed one. -/
theorem Keyed.mem_removed_iff (h : a.Keyed) {i k : Nat} {n : Node} (hn : a.get? k = some n) :
    n.id ∈ (a.removeSubtree i).1.map (·.id) ↔ k ∈ a.subtree i := by
  change n.id ∈ ((a.subtree i).filterMap a.get?).map (·.id) ↔ _
  rw [List.mem_map]
  constructor
  · rintro ⟨m, hm, hid⟩
    obtain ⟨l, hl, hlm⟩ := List.mem_filterMap.mp hm
    exact h.unique hlm hn hid ▸ hl
  · exact fun hk => ⟨n, List.mem_filterMap.mpr ⟨k, hk, hn⟩, rfl⟩

/-- A removal frees the ids of the removed nodes only. -/
theorem Keyed.containsId_removeSubtree (h : a.Keyed) {i : Nat} (hid : a.containsId id = true)
    (hremoved : id ∉ (a.removeSubtree i).1.map (·.id)) :
    (a.removeSubtree i).2.containsId id = true := by
  obtain ⟨k, n, hn, rfl⟩ := h.containsId_iff.mp hid
  rw [h.mem_removed_iff hn] at hremoved
  refine (h.removeSubtree i).containsId_iff.mpr ⟨k, ?_⟩
  rw [get?_removeSubtree, if_neg hremoved, hn]
  split
  · exact ⟨_, rfl, rfl⟩
  · exact ⟨n, rfl, rfl⟩

end Arena

namespace Engine

variable {e : Engine} {ids : List String} {key : String}

/-- Among the instances are those of the given ids no more when these have been removed. -/
theorem contains_removeInstances (he : e.Closed)
    (h : (ids.foldl (fun e id => (e.removeInstance id).2) e).instances.contains key = true) :
    key ∉ ids ∧ e.instances.contains key = true := by
  obtain ⟨i, hi⟩ := Store.contains_iff.mp h
  rw [get?_removeInstances he] at hi
  split at hi
  · exact nomatch hi
  · next hkey => exact ⟨hkey, Store.contains_iff.mpr ⟨i, hi⟩⟩

end Engine

namespace Screen

variable {s s' start : Screen} {b : Arena} {e : Engine} {id : String}

/-! ### Resolving from the registry -/

/-- If definitions are looked up in the registry, giving statuses changes the tree only. -/
theorem foldl_settle_eq (h : s.resolver = Registry.resolve) :
    s.lookups.foldl (fun s r => s.settle r.1 r.2) s = { s with arena := s.resolve.2.arena } := by
  have hengine := engine_foldl_settle s.lookups s fun r hr d hd => contains_of_mem_lookups h hr hd
  obtain ⟨engine, wires, autoConnectPending, hresolve⟩ := s.resolve_rest
  obtain ⟨engine', arena, heq⟩ := foldl_settle_rest s.lookups s
  rw [hresolve]
  rw [heq] at hengine ⊢
  rw [← hengine]

/-- After the statuses come the instances and then the connections. -/
theorem resolve_eq (h : s.resolver = Registry.resolve) : s.resolve.2 =
    ({ s with arena := s.resolve.2.arena }.materialize.connectWires).connectAutomatically := by
  conv_lhs => rw [resolve, foldl_settle_eq h]

/-- If nothing is to be connected, resolving makes instances and nothing else. -/
theorem resolve_of_idle (h : s.resolver = Registry.resolve) (hwires : s.wires = [])
    (hpending : s.autoConnectPending = false) :
    s.resolve.2.engine =
      s.resolve.2.arena.order.foldl (materializeAt s.resolve.2.arena) s.engine := by
  conv_lhs => rw [resolve_eq h]
  rw [connectAutomatically, connectWires, materialize, hwires, hpending]
  rfl

/-- Connecting makes no instance. -/
theorem instances_resolve (h : s.resolver = Registry.resolve) :
    s.resolve.2.engine.instances =
      (s.resolve.2.arena.order.foldl (materializeAt s.resolve.2.arena) s.engine).instances := by
  have hwires : ∀ t : Screen, t.connectWires.engine.instances = t.engine.instances := fun t => by
    refine List.foldlRecOn (motive := fun e : Engine => e.instances = t.engine.instances) _ _ rfl
      fun e he w _ => ?_
    rw [wire]
    split
    · exact he
    · rw [Engine.instances_connect, he]
  have hauto : ∀ t : Screen, t.connectAutomatically.engine.instances = t.engine.instances :=
    fun t => by
      rw [connectAutomatically]
      split
      · exact Engine.instances_autoConnect _ _
      · rfl
  conv_lhs => rw [resolve_eq h, hauto, hwires]
  rfl

/-- Resolving asks for no automatic connections. -/
theorem pending_of_resolve (h : s.resolve.2.autoConnectPending = true) :
    s.autoConnectPending = true := by
  obtain ⟨engine, arena, heq⟩ := foldl_settle_rest s.lookups s
  rw [resolve] at h
  dsimp only at h
  rw [heq, connectAutomatically] at h
  split at h
  · cases h
  · exact h

/-- Resolving makes no wire wait. -/
theorem wires_resolve_of_nil (hwires : s.wires = []) : s.resolve.2.wires = [] := by
  obtain ⟨engine, arena, heq⟩ := foldl_settle_rest s.lookups s
  rw [resolve]
  dsimp only
  rw [heq, connectAutomatically]
  split
  · exact congrArg (List.filter _) hwires
  · exact congrArg (List.filter _) hwires

/-! ### Removing -/

/-- Tells the instance above a removed node which children are left. -/
def relink (b : Arena) (parentId? : Option String) (e : Engine) : Engine :=
  match parentId?.bind fun p => (b.indexOf? p).map fun index => (p, index) with
  | some (parentId, parent) =>
    (e.updateInstance parentId { children := some (b.childIds parent) }).2
  | none => e

/-- Telling an instance makes no instance and drops none. -/
theorem contains_relink {parentId? : Option String} {key : String} :
    (relink b parentId? e).instances.contains key = e.instances.contains key := by
  rw [relink]
  split
  · next parentId parent _ =>
      obtain ⟨events, heq⟩ := e.updateInstance_eq parentId { children := some (b.childIds parent) }
      rw [heq]
      exact Store.contains_mutate
  · rfl

/-- Other instances are told nothing. -/
theorem get?_relink_of_ne {parentId? : Option String} (h : parentId? ≠ some id) :
    (relink b parentId? e).instances.get? id = e.instances.get? id := by
  rw [relink]
  split
  · next parentId parent heq =>
      obtain ⟨p, rfl, hp⟩ := Option.bind_eq_some_iff.mp heq
      obtain ⟨_, -, hpair⟩ := Option.map_eq_some_iff.mp hp
      obtain ⟨rfl, -⟩ := Prod.mk.inj hpair
      obtain ⟨events, heq⟩ := e.updateInstance_eq p { children := some (b.childIds parent) }
      rw [heq]
      exact Store.get?_mutate_of_ne fun heq => h (congrArg some heq)
  · rfl

/-- The instance above gets the children that are left. -/
theorem get?_relink {k : Nat} (h : b.indexOf? id = some k) :
    (relink b (some id) e).instances.get? id = (e.instances.get? id).map fun i =>
      { i with children := b.childIds k, revision := e.instances.clock + 1 } := by
  rw [relink, Option.bind_some, h]
  obtain ⟨events, heq⟩ := e.updateInstance_eq id { children := some (b.childIds k) }
  dsimp only [Option.map_some]
  rw [heq]
  exact Store.get?_mutate.trans (if_pos rfl)

/-- A node that is there is removed with what is below it, and the instance above is told. -/
theorem removeNode_of_index {index : Nat} (h : s.arena.indexOf? id = some index) :
    ∃ memo, (s.removeNode id).2 =
      { s with
        memo
        arena := (s.arena.removeSubtree index).2
        engine := relink (s.arena.removeSubtree index).2 (s.arena.parentId? index)
          (((s.arena.removeSubtree index).1.map (·.id)).foldl
            (fun e id => (e.removeInstance id).2) s.engine) } := by
  rw [removeNode, h]
  exact ⟨_, rfl⟩

/-! ### The invariant -/

/-- The second screen comes from the first by operations that register nothing, and its instances
belong to its nodes. -/
structure Owned (start s : Screen) : Prop where
  resolver : s.resolver = Registry.resolve
  runs : start.engine.Runs false s.engine
  keyed : s.arena.Keyed
  owned : ∀ {id}, s.engine.instances.contains id = true → s.arena.containsId id = true

/-- The instances of a screen belong to its nodes, and no automatic connection is to be made. -/
structure Mirror (start s : Screen) : Prop extends Owned start s where
  pending : s.autoConnectPending = false

namespace Owned

/-- Definitions keep ids and no connection dangles, as it was at the start. -/
theorem sane (h : Owned start s) (hstart : Sane start.engine) : Sane s.engine :=
  hstart.runs h.runs

/-- Values that go through the engine make no instance. -/
theorem reacts (h : Owned start s) (hreacts : s.Reacts s') : Owned start s' := by
  have harena : s'.arena = s.arena := by rw [hreacts.rest]
  refine ⟨?_, h.runs.flow hreacts.flows, ?_, fun {id} hid => ?_⟩
  · rw [hreacts.rest]
    exact h.resolver
  · rw [harena]
    exact h.keyed
  · rw [harena]
    exact h.owned ((hreacts.flows.writes.contains id).symm.trans hid)

/-- After reconciling, every instance is one that was there, of a node that stays. -/
theorem stays_of_contains (h : Owned start s) (hstart : Sane start.engine)
    {plans : List NodePlan} (hid : (s.reconcile plans).engine.instances.contains id = true) :
    s.engine.instances.contains id = true ∧ ∃ node ∈ s.arena.live.map (·.2), node.id = id ∧
      node.Stays (plannedNodes s.engine.kindOf plans) := by
  have hclosed := (h.sane hstart).closed
  obtain ⟨i, hi⟩ := Store.contains_iff.mp hid
  by_cases hids : id ∈ (s.arena.live.map (·.2)).map (·.id)
  · obtain ⟨node, hnode, rfl⟩ := List.mem_map.mp hids
    by_cases hstays : node.Stays (plannedNodes s.engine.kindOf plans)
    · refine ⟨?_, node, hnode, rfl, hstays⟩
      obtain ⟨properties, -, hbare, -⟩ :=
        reconcileNodes_of_stays hclosed h.keyed.nodup_ids hnode hstays
      have hsome : ((s.reconcile plans).engine.instances.bare? node.id).isSome = true :=
        Store.isSome_bare?.trans hid
      rwa [show (s.reconcile plans).engine.instances.bare? node.id = _ from hbare,
        Option.isSome_map, Store.isSome_bare?] at hsome
    · have hgone := reconcileNodes_of_not_stays hclosed h.keyed.nodup_ids hnode hstays
      exact nomatch (congrArg Prod.fst hgone).symm.trans hi
  · -- a component without node was not touched, but no instance is without node
    have hsame := (content_reconcileNodes_of_not_mem (plannedNodes s.engine.kindOf plans) hclosed
      hids).2
    have hbefore : s.engine.instances.contains id = true :=
      Store.contains_iff.mpr ⟨i, (congrArg Prod.fst hsame).symm.trans hi⟩
    exact absurd (h.keyed.mem_ids.mpr (h.owned hbefore)) hids

/-- After reconciling, every instance belongs to a planned node. -/
theorem planned_of_contains (h : Owned start s) (hstart : Sane start.engine)
    {plans : List NodePlan} (hid : (s.reconcile plans).engine.instances.contains id = true) :
    id ∈ (planEntries 0 plans).map (·.1) := by
  obtain ⟨-, node, -, rfl, hstays⟩ := h.stays_of_contains hstart hid
  obtain ⟨⟨kind, properties⟩, hentry, -⟩ := Option.map_eq_some_iff.mp hstays
  obtain ⟨info, hinfo, -, -⟩ := mem_of_get?_plannedNodes hentry
  exact List.mem_map_of_mem hinfo

/-- Making instances makes them for mounted nodes only. -/
theorem resolve (h : Owned start s) (hstart : Sane start.engine) :
    Owned start s.resolve.2 := by
  have hkeyed : s.resolve.2.arena.Keyed := s.restated_resolve.keyed h.keyed
  have hids : ∀ {id}, s.resolve.2.arena.containsId id = s.arena.containsId id := fun {id} => by
    rw [Arena.containsId, s.restated_resolve.byId]
    rfl
  obtain ⟨engine, wires, autoConnectPending, heq⟩ := s.resolve_rest
  refine ⟨by rw [heq]; exact h.resolver, h.runs.trans (s.resolve_runs (.inr h.resolver)), hkeyed,
    fun {id} hid => ?_⟩
  by_cases hname : id ∈ s.resolve.2.arena.names
  · exact hkeyed.mem_names.mp hname
  · obtain ⟨i, hi⟩ := Store.contains_iff.mp hid
    rw [instances_resolve h.resolver, (materialize_local (h.sane hstart) _).1.get? hname] at hi
    rw [hids]
    exact h.owned (Store.contains_iff.mpr ⟨i, hi⟩)

/-- What is removed from the tree is removed from the engine. -/
theorem removeNode (h : Owned start s) (hstart : Sane start.engine) (id : String) :
    Owned start (s.removeNode id).2 := by
  have hruns : start.engine.Runs false (s.removeNode id).2.engine :=
    h.runs.trans (s.removeNode_runs id)
  cases hindex : s.arena.indexOf? id with
  | none =>
      rw [Screen.removeNode, hindex]
      exact h
  | some index =>
      obtain ⟨memo, heq⟩ := removeNode_of_index hindex
      rw [heq] at hruns ⊢
      refine ⟨h.resolver, hruns, h.keyed.removeSubtree index, fun {key} hkey => ?_⟩
      obtain ⟨hnot, hbefore⟩ :=
        Engine.contains_removeInstances (h.sane hstart).closed (contains_relink.symm.trans hkey)
      exact h.keyed.containsId_removeSubtree (h.owned hbefore) hnot

/-- A new tree is planted after the instances of the old one that do not stay were removed. -/
theorem replaced (h : Owned start s) (hstart : Sane start.engine) {plans : List NodePlan}
    (hids : checkIds (fun _ => false) 0 plans = .ok ()) :
    start.engine.Runs false (s.reconcile plans).engine ∧
      ((s.reconcile plans).planted {} 0 plans).Keyed ∧
      ∀ {id}, (s.reconcile plans).engine.instances.contains id = true →
        ((s.reconcile plans).planted {} 0 plans).containsId id = true :=
  ⟨h.runs.trans (s.reconcile_runs plans), keyed_planted .empty hids, fun hid =>
    containsId_planted.mpr (.inr (h.planned_of_contains hstart hid))⟩

/-- Every operation keeps the instances at the mounted nodes. -/
theorem perform (h : Owned start s) (hstart : Sane start.engine) (op : ScreenOp) :
    Owned start (s.perform op) := by
  cases op with
  | mount plan =>
      rcases s.mount_cases plan with heq | ⟨hids, heq⟩
      · rwa [Screen.perform, heq]
      · rw [Screen.perform, heq]
        exact ⟨h.resolver, h.runs, keyed_planted h.keyed hids,
          fun hid => containsId_planted.mpr (.inl (h.owned hid))⟩
  | mountApp app =>
      rcases s.mountApp_cases app with heq | hids
      · rwa [Screen.perform, heq]
      · obtain ⟨layout?, theme?, heq⟩ := mountApp_of_ok hids
        rw [Screen.perform, heq]
        exact ⟨h.resolver, h.runs, keyed_planted h.keyed hids,
          fun hid => containsId_planted.mpr (.inl (h.owned hid))⟩
  | replaceTree plan =>
      rcases s.replaceTree_cases plan with heq | ⟨hids, heq⟩
      · rwa [Screen.perform, heq]
      · rw [Screen.perform, heq]
        obtain ⟨hruns, hkeyed, howned⟩ := h.replaced hstart hids
        exact ⟨h.resolver, hruns, hkeyed, howned⟩
  | replaceApp app =>
      rcases s.replaceApp_cases app with heq | ⟨hids, layout?, theme?, heq⟩
      · rwa [Screen.perform, heq]
      · rw [Screen.perform, heq]
        obtain ⟨hruns, hkeyed, howned⟩ := h.replaced hstart hids
        exact ⟨h.resolver, hruns, hkeyed, howned⟩
  | resolve => exact h.resolve hstart
  | render =>
      rw [Screen.perform, render_eq]
      exact ⟨h.resolver, h.runs, h.keyed, h.owned⟩
  | renderId id =>
      rw [Screen.perform, renderId_rest]
      exact ⟨h.resolver, h.runs, h.keyed, h.owned⟩
  | refresh ids => exact h.reacts (s.refresh_reacts ids)
  | dispatch id event payload => exact h.reacts (s.dispatch_reacts id event payload)
  | invoke id method args => exact h.reacts (s.invoke_reacts id method args)
  | removeNode id => exact h.removeNode hstart id
  | unmount =>
      refine ⟨h.resolver, h.runs.trans (removeInstances_runs _ _), .empty, fun {id} hid => ?_⟩
      obtain ⟨hnot, hbefore⟩ := Engine.contains_removeInstances (h.sane hstart).closed hid
      have hmem := h.keyed.mem_ids.mpr (h.owned hbefore)
      rw [List.map_map] at hmem
      exact absurd hmem hnot

end Owned

/-- An operation asks for automatic connections only if they are enabled. -/
theorem pending_of_perform {op : ScreenOp} (h : (s.perform op).autoConnectPending = true) :
    s.autoConnectPending = true ∨ s.engine.config.autoConnect.enabled = true := by
  cases op with
  | mount plan =>
      rcases s.mount_cases plan with heq | ⟨-, heq⟩
      · exact .inl (by rwa [perform, heq] at h)
      · exact .inl (by rwa [perform, heq] at h)
  | mountApp app =>
      rcases s.mountApp_cases app with heq | hids
      · exact .inl (by rwa [perform, heq] at h)
      · obtain ⟨layout?, theme?, heq⟩ := mountApp_of_ok hids
        rwa [perform, heq, Bool.or_eq_true] at h
  | replaceTree plan =>
      rcases s.replaceTree_cases plan with heq | ⟨-, heq⟩
      · exact .inl (by rwa [perform, heq] at h)
      · exact .inl (by rwa [perform, heq] at h)
  | replaceApp app =>
      rcases s.replaceApp_cases app with heq | ⟨-, layout?, theme?, heq⟩
      · exact .inl (by rwa [perform, heq] at h)
      · have hruns : s.engine.Runs false (s.reconcile app.components).engine := s.reconcile_runs _
        rwa [perform, heq, Bool.or_eq_true, hruns.sameSetup.config] at h
  | resolve => exact .inl (pending_of_resolve h)
  | render => exact .inl (by rwa [perform, render_eq] at h)
  | renderId id => exact .inl (by rwa [perform, renderId_rest] at h)
  | refresh ids => exact .inl (by rwa [perform, (s.refresh_reacts ids).rest] at h)
  | dispatch id event payload =>
      exact .inl (by rwa [perform, (s.dispatch_reacts id event payload).rest] at h)
  | invoke id method args =>
      exact .inl (by rwa [perform, (s.invoke_reacts id method args).rest] at h)
  | removeNode id =>
      rcases s.removeNode_cases id with heq | ⟨_, _, _, -, -, heq⟩
      · exact .inl (by rwa [perform, heq] at h)
      · exact .inl (by rwa [perform, heq] at h)
  | unmount => cases h

/-- Every run of operations keeps the instances at the mounted nodes, and asks for no automatic
connections if these are off. -/
theorem Mirror.run (h : Mirror start s) (hstart : Sane start.engine)
    (hoff : start.engine.config.autoConnect.enabled = false) (ops : List ScreenOp) :
    Mirror start (ops.foldl Screen.perform s) :=
  List.foldlRecOn ops Screen.perform h fun s h op _ => by
    have hoff : s.engine.config.autoConnect.enabled = false := by
      rw [h.runs.sameSetup.config]
      exact hoff
    refine ⟨h.toOwned.perform hstart op, Bool.eq_false_iff.mpr fun hpending => ?_⟩
    rcases pending_of_perform hpending with hbefore | hon
    · exact nomatch h.pending.symm.trans hbefore
    · exact nomatch hoff.symm.trans hon

end Screen

end WidgetFlow
