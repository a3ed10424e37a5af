import WidgetFlow.Proofs.Screen.Numbers
import WidgetFlow.Proofs.Screen.Mirror
import WidgetFlow.Proofs.Tree.Links

/-!
# A removal takes a node with everything beneath it, and nothing else

What is beneath a node is said by the parents that the nodes name (`Arena.Beneath`). `Excised`
compares a screen with an earlier one in the three places where a node leaves traces: the tree, the
instances, and what is connected or applied to them. The only instance that is told of a removal is
the one above the removed node.

## Main results

* `excised_removeNode`: what a removal leaves, if the tree is a forest and the engine is closed.
* `removeNode_excises`: **a removal takes a node with everything beneath it, and nothing else**.
-/

namespace WidgetFlow

namespace Screen

variable {s t : Screen} {e : Engine} {b : Arena} {id : String}

/-- Telling an instance which children are left connects and applies nothing. -/
theorem relink_rest (b : Arena) (parentId? : Option String) (e : Engine) :
    (relink b parentId? e).graph = e.graph ∧ (relink b parentId? e).behaviors = e.behaviors := by
  rw [relink]
  split
  · next parentId parent _ =>
      obtain ⟨events, heq⟩ := e.updateInstance_eq parentId { children := some (b.childIds parent) }
      rw [heq]
      exact ⟨rfl, rfl⟩
  · exact ⟨rfl, rfl⟩

/-- The second screen is the first one without the node of a number and everything beneath it. The
ids are those that are gone.

* `nodes`: a node that is left is as it was, apart from the removed node among its children.
* `above`: the instance above the removed node gets the ids of the children that are left, in order,
  and a revision that no instance had before (`past`).
* `kept`: every other instance that is left is as it was. -/
structure Excised (s t : Screen) (index : Nat) (node : Node) (gone : List String) : Prop where
  mem_gone : ∀ {key}, key ∈ gone ↔
    ∃ k n, s.arena.Beneath index k ∧ s.arena.get? k = some n ∧ n.id = key
  nodes : ∀ {k m}, t.arena.get? k = some m ↔
    ¬s.arena.Beneath index k ∧ ∃ n, s.arena.get? k = some n ∧ m = n.without index
  roots : t.arena.roots = s.arena.roots.filter (· != index)
  numbers : ∀ {key k}, t.arena.indexOf? key = some k ↔
    s.arena.indexOf? key = some k ∧ ¬s.arena.Beneath index k
  removed : ∀ {key}, key ∈ gone → t.engine.instances.get? key = none
  above : ∀ {p m}, node.parent? = some p → s.arena.get? p = some m →
    t.engine.instances.get? m.id = (s.engine.instances.get? m.id).map fun i =>
      { i with
        children := (s.arena.childIds p).filter (· != node.id)
        revision := s.engine.instances.clock + 1 }
  past : ∀ {key i}, s.engine.instances.get? key = some i →
    i.revision < s.engine.instances.clock + 1
  kept : ∀ {key}, key ∉ gone →
    (∀ p m, node.parent? = some p → s.arena.get? p = some m → m.id ≠ key) →
    t.engine.instances.get? key = s.engine.instances.get? key
  connections : t.engine.graph.all = s.engine.graph.all.filter fun c => !gone.any c.touches
  applied : t.engine.behaviors.applied =
    s.engine.behaviors.applied.filter fun a => !gone.contains a.component
  setup : s.engine.SameSetup t.engine
  rest : t = { s with arena := t.arena, engine := t.engine, memo := t.memo }

/-- A node that is there is removed with everything beneath it, and with nothing else. -/
theorem excised_removeNode (hlinked : s.arena.Linked []) (hkeyed : s.arena.Keyed)
    (hclosed : s.engine.Closed) (hdated : s.engine.instances.Dated) {index : Nat} {node : Node}
    (hindex : s.arena.indexOf? id = some index) (hnode : s.arena.get? index = some node) :
    ∃ gone, s.Excised (s.removeNode id).2 index node gone := by
  have hruns : s.engine.Runs false (s.removeNode id).2.engine := s.removeNode_runs id
  have hsetup := hruns.sameSetup
  obtain ⟨memo, heq⟩ := removeNode_of_index hindex
  rw [heq] at hsetup ⊢
  let gone := (s.arena.removeSubtree index).1.map (·.id)
  let e := gone.foldl (fun e id => (e.removeInstance id).2) s.engine
  have hinstances : ∀ key, e.instances.get? key =
      if key ∈ gone then none else s.engine.instances.get? key :=
    Engine.get?_removeInstances hclosed gone
  have hmem : ∀ {key}, key ∈ gone ↔
      ∃ k n, s.arena.Beneath index k ∧ s.arena.get? k = some n ∧ n.id = key := fun {key} => by
    constructor
    · intro hkey
      obtain ⟨n, hn, rfl⟩ := List.mem_map.mp hkey
      obtain ⟨k, hk, hkn⟩ := List.mem_filterMap.mp hn
      exact ⟨k, n, hlinked.mem_subtree_iff.mp hk, hkn, rfl⟩
    · rintro ⟨k, n, hk, hn, rfl⟩
      exact (hkeyed.mem_removed_iff hn).mpr (hlinked.mem_subtree_iff.mpr hk)
  obtain ⟨hgraph, hbehaviors⟩ := relink_rest (s.arena.removeSubtree index).2
    (s.arena.parentId? index) e
  refine ⟨gone, hmem, ?nodes, Arena.roots_removeSubtree, ?numbers, ?removed, ?above, ?past, ?kept,
    ?connections, ?applied, hsetup, rfl⟩
  case nodes =>
    intro k m
    rw [← hlinked.mem_subtree_iff]
    constructor
    · exact hlinked.of_get?_removeSubtree
    · rintro ⟨hk, n, hn, rfl⟩
      exact hlinked.get?_removeSubtree_of_not_mem hn hk
  case numbers =>
    intro key k
    rw [← hlinked.mem_subtree_iff]
    exact Arena.indexOf?_removeSubtree hlinked hkeyed
  case removed =>
    intro key hkey
    have hnotAbove : s.arena.parentId? index ≠ some key := fun hparent => by
      obtain ⟨p, m, hp, hm, rfl⟩ := (Arena.parentId?_eq_some_iff hnode).mp hparent
      exact hlinked.parent_not_mem_subtree hnode hp ((hkeyed.mem_removed_iff hm).mp hkey)
    exact (get?_relink_of_ne hnotAbove).trans ((hinstances key).trans (if_pos hkey))
  case above =>
    intro p m hp hm
    have hleft := hlinked.parent_not_mem_subtree hnode hp
    have hparent : s.arena.parentId? index = some m.id :=
      (Arena.parentId?_eq_some_iff hnode).mpr ⟨p, m, hp, hm, rfl⟩
    have hnumber : (s.arena.removeSubtree index).2.indexOf? m.id = some p :=
      (Arena.indexOf?_removeSubtree hlinked hkeyed).mpr
        ⟨hkeyed.indexOf?_iff.mpr ⟨m, hm, rfl⟩, hleft⟩
    have hclock : e.instances.clock = s.engine.instances.clock :=
      Engine.clock_removeInstances gone s.engine
    rw [hparent, ← Arena.childIds_removeSubtree hlinked hkeyed hnode hleft, ← hclock]
    refine (get?_relink hnumber).trans (congrArg (Option.map _) ?_)
    exact (hinstances m.id).trans (if_neg fun hkey =>
      hleft ((hkeyed.mem_removed_iff hm).mp hkey))
  case past => exact fun hi => Nat.lt_succ_of_le (hdated.past hi)
  case kept =>
    intro key hkey hother
    have hnotAbove : s.arena.parentId? index ≠ some key := fun hparent => by
      obtain ⟨p, m, hp, hm, hid⟩ := (Arena.parentId?_eq_some_iff hnode).mp hparent
      exact hother p m hp hm hid
    exact (get?_relink_of_ne hnotAbove).trans ((hinstances key).trans (if_neg hkey))
  case connections =>
    exact (congrArg Graph.all hgraph).trans (Engine.graph_removeInstances hclosed gone)
  case applied =>
    exact (congrArg BehaviorSystem.applied hbehaviors).trans
      (Engine.applied_removeInstances hclosed gone)

/-- **A removal takes a node with everything beneath it, and nothing else.** After every run of
moves from a screen over an engine that was set up in any way, with any way to look up definitions,
an id that is mounted is the id of a node; removing it succeeds and leaves the screen without that
node and everything beneath it. -/
theorem removeNode_excises (config : Config) (setup : List EngineOp) (resolver : Resolver)
    (moves : List ScreenMove) :
    let start : Screen := { engine := setup.foldl Engine.perform (Engine.new config), resolver }
    let s := moves.foldl move start
    ∀ id, s.arena.containsId id = true →
      ∃ index node gone, s.arena.get? index = some node ∧ node.id = id ∧
        (s.removeNode id).1 = true ∧ s.Excised (s.removeNode id).2 index node gone := by
  intro start s id hid
  have hlinked : s.arena.Linked [] := linked_run .empty moves
  have hkeyed : s.arena.Keyed := keyed_run .empty moves
  have hsetup : (Engine.new config).Runs true (setup.foldl Engine.perform (Engine.new config)) :=
    .foldl (fun e op => .of_perform e op fun _ => rfl) setup _
  have hruns : (Engine.new config).Runs true s.engine := hsetup.trans (runs_run start moves)
  obtain ⟨index, node, hnode, rfl⟩ := hkeyed.containsId_iff.mp hid
  have hindex : s.arena.indexOf? node.id = some index := hkeyed.indexOf?_iff.mpr ⟨node, hnode, rfl⟩
  obtain ⟨gone, hexcised⟩ := excised_removeNode hlinked hkeyed
    ((Engine.Closed.new config).runs hruns) (hruns.evolves .empty).1 hindex hnode
  refine ⟨index, node, gone, hnode, rfl, ?_, hexcised⟩
  rw [removeNode, hindex]

/-- The line of a page is removed, and the page is left without children. -/
theorem removeNode_excises_line :
    let start : Screen := { engine := Engine.new {}, resolver := fun _ kind => .ok { kind } }
    let s := [ScreenMove.operate (.mountApp { components := [page] }), .operate .resolve].foldl move
      start
    s.arena.containsId "line" = true ∧
      ∃ index node gone, s.arena.get? index = some node ∧ node.id = "line" ∧
        (s.removeNode "line").1 = true ∧ s.Excised (s.removeNode "line").2 index node gone := by
  intro start s
  have hnames : (planEntries 0 [page]).map (·.1) = ["line", "page"] := by
    simp [planEntries, NodePlan.entries, entriesBelow, page, NodeInfo.idAt]
  have hids : checkIds ({} : Arena).containsId 0 [page] = .ok () := by
    rw [checkIds_eq_ok, hnames]
    exact ⟨by decide, fun _ _ => rfl⟩
  obtain ⟨layout?, theme?, heq⟩ := @mountApp_of_ok start { components := [page] } hids
  have hmounted : (start.mountApp { components := [page] }).2.arena.containsId "line" = true := by
    rw [heq]
    exact containsId_planted.mpr (.inr (hnames ▸ List.mem_cons_self))
  have hid : s.arena.containsId "line" = true :=
    (congrArg (Dict.contains · "line") (restated_resolve _).byId).trans hmounted
  exact ⟨hid, removeNode_excises {} [] (fun _ kind => .ok { kind })
    [.operate (.mountApp { components := [page] }), .operate .resolve] "line" hid⟩

end Screen

end WidgetFlow
