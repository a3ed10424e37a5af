import WidgetFlow.Proofs.Engine.Local
import WidgetFlow.Proofs.Screen.Mount

/-!
# What reconciling does

Reconciling visits the mounted nodes one after the other. Since no two of them have the same id,
what becomes of a component is decided at its own node (`reconcileNodes_at`): if the node stays then
the planned properties that differ are written (`reconcileNodes_of_stays`), and otherwise the
component goes with its connections and with what is applied to it (`reconcileNodes_of_not_stays`).

## Main results

* `bare?_updateDeclared`: what becomes of the instance of a node that stays.
* `reconcileNodes_at`: what becomes of a component is decided at its node.
* `graph_reconcileNodes`: exactly the connections of nodes that go are removed.
* `get?_plannedNodes_of_mem`: what is planned for an id.
-/

namespace WidgetFlow

/-- The planned properties that differ from those planned before. -/
def changed (declared planned : Dict Value) : Dict Value :=
  planned.filter fun entry => !(Dict.get? declared entry.1 == some entry.2)

/-- An instance after properties were written in turn. -/
def Instance.putAll (i : Instance) (entries : Dict Value) : Instance :=
  entries.foldl (fun i entry => i.put entry.1 entry.2) i

/-- Written properties go over those that were there, and the state no longer hides them. -/
theorem Instance.putAll_eq (i : Instance) (entries : Dict Value) :
    i.putAll entries =
      { i with
        properties := Dict.union i.properties entries
        state := (Dict.keys entries).foldl Dict.erase i.state } := by
  induction entries generalizing i with
  | nil => rfl
  | cons entry rest ih =>
      change (i.put entry.1 entry.2).putAll rest = _
      rw [ih]
      rfl

/-- Everything that an engine has of a component: its instance, and what is applied to it. -/
def Engine.content (e : Engine) (id : String) : Option Instance × List Applied :=
  (e.instances.get? id, e.behaviors.attached id)

/-- Whether the id of a node is planned again with the same kind. -/
def Node.Stays (planned : Dict (Kind × Dict Value)) (node : Node) : Prop :=
  (Dict.get? planned node.id).map (·.1) = some node.kind

instance (planned : Dict (Kind × Dict Value)) (node : Node) : Decidable (node.Stays planned) :=
  inferInstanceAs (Decidable (_ = _))

namespace Screen

open Engine (Local)

variable {e : Engine} {id key : String} {node : Node} {nodes : List Node}
  {planned : Dict (Kind × Dict Value)} {declared properties : Dict Value}

/-! ### Nodes that stay -/

/-- The planned properties that differ are written to the instance. -/
theorem updateDeclared_eq (declared properties : Dict Value) (id : String) (e : Engine) :
    updateDeclared declared properties id e =
      { e with
        instances := (changed declared properties).foldl
          (fun s entry => (View.setProperty s id entry.1 entry.2).2) e.instances } := by
  rw [updateDeclared, changed]
  induction properties generalizing e with
  | nil => rfl
  | cons entry rest ih =>
      rw [List.foldl_cons, List.filter_cons, ih]
      by_cases hsame : (Dict.get? declared entry.1 == some entry.2) = true
      · simp only [hsame, if_true, Bool.not_true, Bool.false_eq_true, if_false]
      · simp only [hsame, Bool.not_false, if_true]
        rfl

/-- What becomes of the instance of a node that stays. -/
theorem bare?_updateDeclared :
    (updateDeclared declared properties id e).instances.bare? id =
      (e.instances.bare? id).map (·.putAll (changed declared properties)) := by
  rw [updateDeclared_eq]
  dsimp only
  generalize changed declared properties = entries
  generalize e.instances = s
  induction entries generalizing s with
  | nil => exact Option.map_id'.symm
  | cons entry rest ih =>
      rw [List.foldl_cons, ih, Store.bare?_setProperty, Option.map_map]
      rfl

/-- Writing planned properties is done to one component alone. -/
theorem updateDeclared_local : Local {id} e (updateDeclared declared properties id e) := by
  refine Local.foldl fun e' _ entry _ => ?_
  dsimp only
  split
  · exact .refl e'
  · exact .setProperty e' id entry.1 entry.2

/-- Writing planned properties applies nothing. -/
theorem behaviors_updateDeclared :
    (updateDeclared declared properties id e).behaviors = e.behaviors := by
  rw [updateDeclared_eq]

/-- A node that stays is updated. -/
theorem reconcileNode_of_stays (h : node.Stays planned) :
    ∃ properties, Dict.get? planned node.id = some (node.kind, properties) ∧
      reconcileNode planned e node = updateDeclared node.declared properties node.id e := by
  obtain ⟨⟨kind, properties⟩, hget, rfl⟩ := Option.map_eq_some_iff.mp h
  refine ⟨properties, hget, ?_⟩
  rw [reconcileNode, hget]
  exact if_pos rfl

/-- A node that does not stay is removed. -/
theorem reconcileNode_of_not_stays (h : ¬ node.Stays planned) :
    reconcileNode planned e node = (e.removeInstance node.id).2 := by
  rw [reconcileNode]
  cases hget : Dict.get? planned node.id with
  | none => rfl
  | some entry =>
      refine if_neg fun heq => h ?_
      rw [Node.Stays, hget, ← heq]
      rfl

/-! ### Removed components -/

/-- A removed component is gone, and the others stay. -/
theorem content_removeInstance (he : e.Closed) :
    (e.removeInstance id).2.content key = if id = key then (none, []) else e.content key := by
  rw [Engine.content, Engine.instances_removeInstance, Store.get?_remove he.indexed.sorted,
    BehaviorSystem.attached, Engine.applied_removeInstance he, List.filter_filter]
  split
  · next heq =>
      refine Prod.ext rfl (List.filter_eq_nil_iff.mpr fun a _ => ?_)
      simp [heq]
  · next hne =>
      refine Prod.ext rfl (List.filter_congr fun a _ => ?_)
      by_cases ha : a.component = key
      · simp [ha, Ne.symm hne]
      · simp [ha]

/-- Removing a component uses up no number. -/
theorem next_removeInstance (e : Engine) (id : String) :
    (e.removeInstance id).2.behaviors.next = e.behaviors.next := by
  cases hi : e.instances.get? id with
  | none => rw [Engine.removeInstance_of_none hi]
  | some i =>
      obtain ⟨events, heq⟩ := Engine.removeInstance_of_some hi
      rw [heq]
      rfl

/-! ### All nodes -/

/-- A node says nothing about other components. -/
theorem content_reconcileNode_of_ne (he : e.Closed) (hne : node.id ≠ key) :
    (reconcileNode planned e node).content key = e.content key := by
  by_cases hstays : node.Stays planned
  · obtain ⟨properties, -, heq⟩ := reconcileNode_of_stays (e := e) hstays
    have hlocal : Local {node.id} e (updateDeclared node.declared properties node.id e) :=
      updateDeclared_local
    rw [heq]
    exact Prod.ext (hlocal.get? (Ne.symm hne)) (hlocal.attached_of_not_mem (Ne.symm hne))
  · rw [reconcileNode_of_not_stays hstays, content_removeInstance he, if_neg hne]

/-- Reconciling a node leaves no connection that dangles. -/
theorem closed_reconcileNode (he : e.Closed) : (reconcileNode planned e node).Closed :=
  have hruns : e.Runs false (reconcileNode planned e node) := (reconcileNode_rearranges planned e node).runs
  he.runs hruns

/-- Nodes say nothing about components that are not theirs. -/
theorem content_reconcileNodes_of_not_mem (planned : Dict (Kind × Dict Value)) (he : e.Closed)
    (h : key ∉ nodes.map (·.id)) :
    (nodes.foldl (reconcileNode planned) e).Closed ∧
      (nodes.foldl (reconcileNode planned) e).content key = e.content key :=
  List.foldlRecOn (motive := fun e' : Engine => e'.Closed ∧ e'.content key = e.content key) nodes _
    ⟨he, rfl⟩ fun e' ⟨he', hkey⟩ node hnode => by
      have hne : node.id ≠ key := by
        rintro rfl
        exact h (List.mem_map_of_mem hnode)
      exact ⟨closed_reconcileNode he', (content_reconcileNode_of_ne he' hne).trans hkey⟩

/-- What becomes of a component is decided at its node, which finds it as it was. -/
theorem reconcileNodes_at (planned : Dict (Kind × Dict Value)) (he : e.Closed)
    (hnodup : (nodes.map (·.id)).Nodup) (hnode : node ∈ nodes) :
    ∃ e' : Engine, e'.Closed ∧ e'.content node.id = e.content node.id ∧
      (nodes.foldl (reconcileNode planned) e).content node.id =
        (reconcileNode planned e' node).content node.id := by
  obtain ⟨before, after, rfl⟩ := List.append_of_mem hnode
  rw [List.map_append, List.map_cons, List.nodup_append, List.nodup_cons] at hnodup
  obtain ⟨-, ⟨hafter, -⟩, hdisjoint⟩ := hnodup
  have hbefore : node.id ∉ before.map (·.id) := fun hmem =>
    hdisjoint _ hmem _ List.mem_cons_self rfl
  obtain ⟨he', hsame⟩ := content_reconcileNodes_of_not_mem planned he hbefore
  refine ⟨_, he', hsame, ?_⟩
  rw [List.foldl_append, List.foldl_cons]
  exact (content_reconcileNodes_of_not_mem planned (closed_reconcileNode he') hafter).2

/-- A node that stays keeps its instance and what is applied to it. -/
theorem reconcileNodes_of_stays (he : e.Closed) (hnodup : (nodes.map (·.id)).Nodup)
    (hnode : node ∈ nodes) (hstays : node.Stays planned) :
    ∃ properties, Dict.get? planned node.id = some (node.kind, properties) ∧
      (nodes.foldl (reconcileNode planned) e).instances.bare? node.id =
        (e.instances.bare? node.id).map (·.putAll (changed node.declared properties)) ∧
      (nodes.foldl (reconcileNode planned) e).behaviors.attached node.id =
        e.behaviors.attached node.id := by
  obtain ⟨e', -, hbefore, hafter⟩ := reconcileNodes_at planned he hnodup hnode
  obtain ⟨properties, hget, heq⟩ := reconcileNode_of_stays (e := e') hstays
  rw [heq] at hafter
  obtain ⟨hinstance, hattached⟩ := Prod.mk.inj hbefore
  obtain ⟨hinstance', hattached'⟩ := Prod.mk.inj hafter
  refine ⟨properties, hget, ?_, ?_⟩
  · rw [Store.bare?, hinstance', ← Store.bare?, bare?_updateDeclared, Store.bare?, hinstance,
      ← Store.bare?]
  · rw [hattached', behaviors_updateDeclared, hattached]

/-- A node that does not stay loses its instance and what is applied to it. -/
theorem reconcileNodes_of_not_stays (he : e.Closed) (hnodup : (nodes.map (·.id)).Nodup)
    (hnode : node ∈ nodes) (hstays : ¬ node.Stays planned) :
    (nodes.foldl (reconcileNode planned) e).content node.id = (none, []) := by
  obtain ⟨e', he', -, hafter⟩ := reconcileNodes_at planned he hnodup hnode
  rw [hafter, reconcileNode_of_not_stays hstays, content_removeInstance he', if_pos rfl]

/-- Exactly the connections of nodes that do not stay are removed. -/
theorem graph_reconcileNodes (he : e.Closed) (nodes : List Node) :
    (nodes.foldl (reconcileNode planned) e).graph.all =
      e.graph.all.filter fun c => nodes.all fun node =>
        decide (node.Stays planned) || !c.touches node.id := by
  induction nodes generalizing e with
  | nil => simp
  | cons node rest ih =>
      rw [List.foldl_cons, ih (closed_reconcileNode he)]
      by_cases hstays : node.Stays planned
      · obtain ⟨properties, -, heq⟩ := reconcileNode_of_stays (e := e) hstays
        rw [heq, (updateDeclared_local : Local {node.id} e _).graph]
        simp [hstays]
      · rw [reconcileNode_of_not_stays hstays, Engine.graph_removeInstance he,
          List.filter_filter]
        refine List.filter_congr fun c _ => ?_
        simp [hstays, Bool.and_comm]

/-- Reconciling uses up no number. -/
theorem next_reconcileNodes (nodes : List Node) (e : Engine) :
    (nodes.foldl (reconcileNode planned) e).behaviors.next = e.behaviors.next := by
  refine List.foldlRecOn (motive := fun e' : Engine => e'.behaviors.next = e.behaviors.next) nodes
    _ rfl fun e' he' node _ => ?_
  by_cases hstays : node.Stays planned
  · obtain ⟨properties, -, heq⟩ := reconcileNode_of_stays (e := e') hstays
    rw [heq, behaviors_updateDeclared, he']
  · rw [reconcileNode_of_not_stays hstays, next_removeInstance, he']

/-! ### What is planned -/

/-- What is planned below a node is noted over what was noted before. -/
theorem flattenEach_some (kindOf : String → Kind) (parentId : String) :
    ∀ (position : Nat) (plans : List ChildPlan) (planned : Dict (Kind × Dict Value)),
      flattenEach kindOf (some parentId) position plans planned =
        Dict.union planned ((entriesBelow parentId position plans).map fun (id, info) =>
          (id, (kindOf info.tag, info.properties)))
  | position, [], planned => by
      rw [flattenEach, entriesBelow]
      rfl
  | position, .text content :: rest, planned => by
      rw [flattenEach, flatten, entriesBelow]
      exact flattenEach_some kindOf parentId (position + 1) rest planned
  | position, .node info children :: rest, planned => by
      rw [flattenEach, flatten, entriesBelow, flattenEach_some kindOf _ 0 children planned,
        flattenEach_some kindOf parentId (position + 1) rest]
      simp [Dict.union]

/-- What is planned in trees is noted over what was noted before. -/
theorem flattenEach_none (kindOf : String → Kind) (position : Nat) (plans : List NodePlan)
    (planned : Dict (Kind × Dict Value)) :
    flattenEach kindOf none position (plans.map NodePlan.asChild) planned =
      Dict.union planned ((planEntries position plans).map fun (id, info) =>
        (id, (kindOf info.tag, info.properties))) := by
  induction plans generalizing position planned with
  | nil =>
      rw [List.map_nil, flattenEach, planEntries]
      rfl
  | cons plan rest ih =>
      rw [List.map_cons, NodePlan.asChild, flattenEach, flatten, planEntries, NodePlan.entries,
        flattenEach_some, ih]
      simp [Dict.union]

/-- The planned nodes of trees as a dictionary. -/
theorem plannedNodes_eq (kindOf : String → Kind) (plans : List NodePlan) :
    plannedNodes kindOf plans = Dict.ofEntries ((planEntries 0 plans).map fun (id, info) =>
      (id, (kindOf info.tag, info.properties))) :=
  flattenEach_none kindOf 0 plans []

/-- What stands for an id was planned for it. -/
theorem mem_of_get?_plannedNodes {kindOf : String → Kind} {plans : List NodePlan} {kind : Kind}
    (h : Dict.get? (plannedNodes kindOf plans) id = some (kind, properties)) :
    ∃ info, (id, info) ∈ planEntries 0 plans ∧ kindOf info.tag = kind ∧
      info.properties = properties := by
  rw [plannedNodes_eq] at h
  have hmem := (Dict.mem_union (Dict.mem_of_get? h)).resolve_left List.not_mem_nil
  obtain ⟨⟨x, info⟩, hinfo, heq⟩ := List.mem_map.mp hmem
  obtain ⟨rfl, hrest⟩ := Prod.mk.inj heq
  obtain ⟨hkind, hproperties⟩ := Prod.mk.inj hrest
  exact ⟨info, hinfo, hkind, hproperties⟩

/-- What was planned for an id stands for it if no id repeats. -/
theorem get?_plannedNodes_of_mem {kindOf : String → Kind} {plans : List NodePlan} {info : NodeInfo}
    (hnodup : ((planEntries 0 plans).map (·.1)).Nodup) (h : (id, info) ∈ planEntries 0 plans) :
    Dict.get? (plannedNodes kindOf plans) id = some (kindOf info.tag, info.properties) := by
  rw [plannedNodes_eq]
  refine Dict.get?_union_of_mem ?_ (List.mem_map.mpr ⟨(id, info), h, rfl⟩)
  rw [Dict.keys, List.map_map]
  exact hnodup

end Screen

end WidgetFlow
