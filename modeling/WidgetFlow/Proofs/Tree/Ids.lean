import Mathlib.Data.List.Perm.Basic
import WidgetFlow.Proofs.Tree.Planting

/-!
# The ids of the nodes that are mounted

Whether two nodes get the same id can be read off a plan (`planEntries`) before anything is mounted,
or off the nodes afterwards (`Arena.ids`). The two lists have the same members equally often, though
not in the same order: a plan lists a node behind what is below it, and an arena in front.

## Main results

* `ids_plantAll`: mounting adds the planned ids, each as often as it is planned.
-/

namespace WidgetFlow

namespace Arena

variable {a : Arena} {node : Node} {change : Node → Node} {i : Nat} {id : String}
  {kindOf : String → Kind}

/-- The ids of the nodes in the order of their numbers. -/
def ids (a : Arena) : List String := a.live.map (·.2.id)

/-- The ids of the nodes stand in the slots. -/
theorem ids_eq (a : Arena) : a.ids = a.slots.filterMap fun slot => slot.map (·.id) := by
  have hslots : a.slots = a.slots.zipIdx.map (·.1) := List.zipIdx_map_fst 0 a.slots |>.symm
  conv_rhs => rw [hslots, List.filterMap_map]
  rw [ids, live, List.map_filterMap]
  refine List.filterMap_congr fun entry _ => ?_
  obtain ⟨slot, index⟩ := entry
  cases slot <;> rfl

/-- An id is listed if there is a node that has it. -/
theorem mem_ids : id ∈ a.ids ↔ ∃ i n, a.get? i = some n ∧ n.id = id := by
  rw [ids, List.mem_map]
  constructor
  · rintro ⟨⟨i, n⟩, hmem, rfl⟩
    exact ⟨i, n, mem_live.mp hmem, rfl⟩
  · rintro ⟨i, n, hn, rfl⟩
    exact ⟨(i, n), mem_live.mpr hn, rfl⟩

/-- The id of an inserted node comes last. -/
theorem ids_insert : (a.insert node).2.ids = a.ids ++ [node.id] := by
  rw [ids_eq, ids_eq]
  exact List.filterMap_append

/-- A change of a node that keeps its id keeps the ids. -/
theorem ids_modify (hchange : ∀ n, (change n).id = n.id) : (a.modify i change).ids = a.ids := by
  have hmap : (a.modify i change).slots.map (Option.map (·.id)) =
      a.slots.map (Option.map (·.id)) := by
    refine List.ext_getElem? fun k => ?_
    rw [List.getElem?_map, List.getElem?_map]
    change (((a.slots.modify i (Option.map change))[k]?).map _) = _
    rw [List.getElem?_modify]
    split
    · rcases a.slots[k]? with _ | _ | n
      · rfl
      · rfl
      · exact congrArg (fun x => some (some x)) (hchange n)
    · rcases a.slots[k]? with _ | slot <;> rfl
  have hslots : ∀ b : Arena, b.ids = (b.slots.map (Option.map (·.id))).filterMap fun x => x :=
    fun b => by rw [ids_eq, List.filterMap_map]; rfl
  rw [hslots, hmap, ← hslots]

/-- A new child keeps the ids. -/
theorem ids_addChild (child : Child) : (a.addChild i child).ids = a.ids := ids_modify fun _ => rfl

/-- Mounting planned children adds the planned ids. -/
theorem ids_plantBelow (parent : Nat) (parentId : String) :
    ∀ (position : Nat) (plans : List ChildPlan) (a : Arena),
      ((a.plantBelow kindOf parent parentId position plans).ids).Perm
        (a.ids ++ (entriesBelow parentId position plans).map (·.1))
  | position, [], a => by
      rw [plantBelow, entriesBelow, List.map_nil, List.append_nil]
  | position, .text content :: rest, a => by
      rw [plantBelow, entriesBelow]
      have hrest := ids_plantBelow parent parentId (position + 1) rest
        (a.addChild parent (.text content))
      rwa [ids_addChild] at hrest
  | position, .node info children :: rest, a => by
      rw [plantBelow, entriesBelow]
      let id := info.idAt (some parentId) position
      let inserted := (a.insert (info.toNode id (kindOf info.tag) (some parent))).2
      let b := inserted.plantBelow kindOf a.slots.length id 0 children
      have hbelow : b.ids.Perm (a.ids ++ [id] ++ (entriesBelow id 0 children).map (·.1)) := by
        have h := ids_plantBelow a.slots.length id 0 children inserted
        rwa [show inserted.ids = a.ids ++ [id] from ids_insert] at h
      have hrest := ids_plantBelow parent parentId (position + 1) rest
        (b.addChild parent (.node a.slots.length))
      rw [ids_addChild] at hrest
      refine hrest.trans ((hbelow.append_right _).trans ?_)
      -- in the arena the node stands in front of what is below it, in the plan behind it
      rw [List.map_append, List.map_cons, List.append_assoc, List.append_assoc]
      refine List.Perm.append_left a.ids ?_
      rw [List.singleton_append]
      exact List.perm_middle.symm

/-- Mounting a tree adds the planned ids. -/
theorem ids_plant (a : Arena) (plan : NodePlan) (position : Nat) :
    ((a.plant kindOf plan position).2.ids).Perm
      (a.ids ++ (plan.entries position).map (·.1)) := by
  let id := plan.info.idAt none position
  let inserted := (a.insert (plan.info.toNode id (kindOf plan.info.tag) none)).2
  have h : (inserted.plantBelow kindOf a.slots.length id 0 plan.children).ids.Perm
      (inserted.ids ++ (entriesBelow id 0 plan.children).map (·.1)) :=
    ids_plantBelow a.slots.length id 0 plan.children inserted
  rw [show inserted.ids = a.ids ++ [id] from ids_insert, List.append_assoc] at h
  refine h.trans (List.Perm.append_left a.ids ?_)
  rw [NodePlan.entries, List.map_append]
  exact List.perm_append_comm

/-- Mounting trees in turn adds the planned ids, each as often as it is planned. -/
theorem ids_plantAll (position : Nat) (plans : List NodePlan) (a : Arena) :
    ((a.plantAll kindOf position plans).2.ids).Perm
      (a.ids ++ (planEntries position plans).map (·.1)) := by
  induction plans generalizing position a with
  | nil =>
      rw [planEntries, List.map_nil, List.append_nil]
      exact .refl _
  | cons plan rest ih =>
      rw [planEntries, List.map_append, ← List.append_assoc]
      exact (ih (position + 1) _).trans ((ids_plant a plan position).append_right _)

end Arena

/-- The ids that nodes get when trees are mounted from a position on where nothing else is. -/
def mountedIds (kindOf : String → Kind) (position : Nat) (plans : List NodePlan) : List String :=
  (({} : Arena).plantAll kindOf position plans).2.ids

/-- Nodes get the ids that are planned for them. -/
theorem mountedIds_perm (kindOf : String → Kind) (position : Nat) (plans : List NodePlan) :
    (mountedIds kindOf position plans).Perm ((planEntries position plans).map (·.1)) :=
  Arena.ids_plantAll position plans {}

end WidgetFlow
