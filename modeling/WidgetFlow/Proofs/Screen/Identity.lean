import WidgetFlow.Proofs.Tree.Path
import WidgetFlow.Proofs.Screen.Reconcile

/-!
# One id for one planned node

A plan leaves nodes unnamed, and three functions go through it on their own to find out how these
nodes are called: `collectEach` for the check that no id repeats, `Arena.plantAll` for the nodes,
and `flattenEach` for what is compared with the nodes that were mounted before. Each of them counts
positions and passes ids down by itself.

Both lists are read off the same mounted nodes (`Arena.Realizes`): the ids that are collected are
those of the nodes, in order (`collectEach_of_realizes`), and what is flattened are the kinds and
the properties of the nodes under their ids (`flattenEach_of_realizes`).

## Main results

* `ids_agree`: **the three agree on the id of every planned node**, and if the ids are distinct then
  a node finds its own kind and properties under its id.
-/

namespace WidgetFlow.Screen

variable {b : Arena} {kindOf : String → Kind} {parentId? : Option String} {position : Nat}
  {plans : List ChildPlan} {children : List Child} {planted : List (Nat × Node)}

/-- The ids that are collected are those of the mounted nodes. -/
theorem collectEach_of_realizes (h : b.Realizes kindOf parentId? position plans children planted)
    (ids : List String) :
    collectEach parentId? position plans ids = ids ++ planted.map (·.2.id) := by
  induction h generalizing ids with
  | nil => rw [collectEach, List.map_nil, List.append_nil]
  | text _ ih =>
      rw [collectEach, collectIds]
      exact ih ids
  | node _ hid _ _ _ ihunder ihrest =>
      rw [collectEach, collectIds, ← hid, ihunder, ihrest]
      simp

/-- What is noted for planned nodes are the kinds and the properties of the mounted ones. -/
theorem flattenEach_of_realizes (h : b.Realizes kindOf parentId? position plans children planted)
    (planned : Dict (Kind × Dict Value)) :
    flattenEach kindOf parentId? position plans planned =
      Dict.union planned (planted.map fun m => (m.2.id, m.2.kind, m.2.declared)) := by
  induction h generalizing planned with
  | nil =>
      rw [flattenEach]
      rfl
  | text _ ih =>
      rw [flattenEach, flatten]
      exact ih planned
  | node _ hid hdesc _ _ ihunder ihrest =>
      have hkind := congrArg Node.kind hdesc
      have hdeclared := congrArg Node.declared hdesc
      rw [flattenEach, flatten, ← hid, ihunder, ihrest, List.map_append, List.map_cons, hkind,
        hdeclared]
      simp [Dict.union, NodeInfo.toNode]

/-- **The duplicate check, the mounting and the comparison agree on every id.** Planned trees are
mounted from a position on, with the aliases of an engine. There is a node at a path exactly if one
is planned there, and it is the planned one, with the id that the plan gets there. The nodes at the
paths are the nodes with a new number. Their ids, in the order of the paths, are those that are
collected, and what is flattened are their kinds and properties, noted under their ids in the same
order. So the flattened keys are these ids, and if no id repeats then the id of each node leads to
its own kind and properties. -/
theorem ids_agree (e : Engine) (a : Arena) (position : Nat) (plans : List NodePlan) :
    let forest := plans.map NodePlan.asChild
    let b := (a.plantAll e.kindOf position plans).2
    let roots := (a.plantAll e.kindOf position plans).1.map Child.node
    let ids := collectEach none position forest []
    let planned := flattenEach e.kindOf none position forest []
    (nodePaths forest).Nodup ∧
      (∀ path, path ∈ nodePaths forest ↔ (plannedAt? none position forest path).isSome) ∧
      (∀ path, Option.Rel (fun entry n => n.id = entry.1 ∧ entry.2.Describes e.kindOf n)
        (plannedAt? none position forest path) (b.nodeAt? roots path)) ∧
      ∃ created : List (Nat × Node),
        List.Forall₂ (fun path m => b.numberAt? roots path = some m.1 ∧ b.get? m.1 = some m.2)
          (nodePaths forest) created ∧
        (created.map (·.1)).Perm
          (List.range' a.slots.length (b.slots.length - a.slots.length)) ∧
        ids = created.map (·.2.id) ∧
        planned = Dict.ofEntries (created.map fun m => (m.2.id, m.2.kind, m.2.declared)) ∧
        (∀ id, id ∈ Dict.keys planned ↔ id ∈ ids) ∧
        (ids.Nodup → ∀ m ∈ created,
          Dict.get? planned m.2.id = some (m.2.kind, m.2.declared)) := by
  intro forest b roots ids planned
  have hraised : ∃ created, a.Raised e.kindOf b none position forest roots created :=
    Arena.plantAll_raised position plans a
  obtain ⟨created, hrealizes, hlength, hnumbers⟩ := hraised
  have hids : ids = created.map (·.2.id) := collectEach_of_realizes hrealizes []
  have hplanned : planned =
      Dict.ofEntries (created.map fun m => (m.2.id, m.2.kind, m.2.declared)) :=
    flattenEach_of_realizes hrealizes []
  have hkeys : Dict.keys (created.map fun m => (m.2.id, m.2.kind, m.2.declared)) =
      created.map (·.2.id) := List.map_map
  refine ⟨nodup_nodePaths forest, mem_nodePaths none position forest, hrealizes.rel_nodeAt?,
    created, hrealizes.forall₂_numberAt?, ?_, hids, hplanned, fun id => ?_, fun hnodup m hm => ?_⟩
  · rwa [hlength, Nat.add_sub_cancel_left]
  · rw [hplanned, hids, ← hkeys]
    exact Dict.mem_keys_union.trans (or_iff_right List.not_mem_nil)
  · rw [hplanned]
    refine Dict.get?_union_of_mem ?_ (List.mem_map_of_mem hm)
    rwa [hkeys, ← hids]

/-- A text, an unnamed node and a named one. -/
def signpost : NodePlan where
  info := { tag := "container" }
  children :=
    [.text "on", .node { tag := "text" } [], .node { id? := some "named", tag := "text" } []]

/-- The text counts as a position for the id of the unnamed node behind it. -/
theorem ids_agree_signpost :
    let mounted := ({} : Arena).plantAll (Engine.new {}).kindOf 3 [signpost]
    let ids := collectEach none 3 [signpost.asChild] []
    ids = ["root/container-3/text-1", "named", "root/container-3"] ∧ ids.Nodup ∧
      ∃ n, mounted.2.nodeAt? (mounted.1.map Child.node) [0, 1] = some n ∧
        n.id = "root/container-3/text-1" ∧
        Dict.get? (flattenEach (Engine.new {}).kindOf none 3 [signpost.asChild] []) n.id =
          some (n.kind, n.declared) := by
  intro mounted ids
  have hids : ids = ["root/container-3/text-1", "named", "root/container-3"] := by decide +kernel
  have hnodup : ids.Nodup := by
    rw [hids]
    decide
  obtain ⟨-, -, hrel, created, hcreated, -, -, -, -, hfound⟩ :=
    ids_agree (Engine.new {}) {} 3 [signpost]
  have hpaths : nodePaths ([signpost].map NodePlan.asChild) = [[0, 1], [0, 2], [0]] := by
    simp [signpost, NodePlan.asChild, nodePaths, nextPath]
  rw [hpaths] at hcreated
  obtain _ | @⟨_, m, _, _, ⟨hnumber, hm⟩, -⟩ := hcreated
  have hnode : mounted.2.nodeAt? (mounted.1.map Child.node) [0, 1] = some m.2 := by
    rw [Arena.nodeAt?, hnumber, Option.bind_some, hm]
  have hplanned : plannedAt? none 3 ([signpost].map NodePlan.asChild) [0, 1] =
      some ("root/container-3/text-1", { tag := "text" }) := rfl
  have hthere := hrel [0, 1]
  rw [hnode, hplanned] at hthere
  cases hthere with
  | some hdesc => exact ⟨hids, hnodup, m.2, hnode, hdesc.1, hfound hnodup m List.mem_cons_self⟩

end WidgetFlow.Screen
