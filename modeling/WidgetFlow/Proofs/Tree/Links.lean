import WidgetFlow.Proofs.Tree.Planting

/-!
# Links by number and links by id

Nodes name each other by number, instances by id. `Arena.Has a i id` says which id goes with a
number, so `Option.Rel a.Has` and `List.Forall₂ a.Has` compare a parent, or a list of children, as a
node has it with what an instance has.

In a forest, the ids that are read off for a node are those of its parent and of all its children
(`Linked.rel_parentId?`, `Linked.forall₂_childIds`), and a removal breaks only the link between the
removed node and its parent (`Linked.has_parent_removeSubtree`, `Linked.has_child_removeSubtree`):
the ids of the other children stay, in order (`childIds_removeSubtree`).
-/

namespace WidgetFlow

/-- Numbers and ids that belong together in one way do so in another if that holds for those
numbers that are there. -/
theorem rel_of_imp {R S : Nat → String → Prop} {number? : Option Nat} {id? : Option String}
    (h : Option.Rel R number? id?) (himp : ∀ {i id}, number? = some i → R i id → S i id) :
    Option.Rel S number? id? := by
  cases h with
  | none => exact .none
  | some hid => exact .some (himp rfl hid)

/-- Lists of numbers and of ids that belong together in one way do so in another if that holds for
the numbers in the list. -/
theorem forall₂_of_imp {R S : Nat → String → Prop} {numbers : List Nat} {ids : List String}
    (h : List.Forall₂ R numbers ids) (himp : ∀ {i id}, i ∈ numbers → R i id → S i id) :
    List.Forall₂ S numbers ids :=
  ((List.forall₂_and_left numbers ids).mpr ⟨fun _ hi => hi, h⟩).imp fun _ _ h => himp h.1 h.2

namespace Arena

variable {a b : Arena} {n m : Node} {i j k p : Nat} {id : String} {loose : List Nat}

/-- The node of a number has an id. -/
def Has (a : Arena) (i : Nat) (id : String) : Prop := ∃ n, a.get? i = some n ∧ n.id = id

/-- An id leads to the number of the node that has it. -/
theorem Keyed.indexOf?_iff (h : a.Keyed) : a.indexOf? id = some i ↔ a.Has i id := h.found

/-- The id that is read off for the parent of a node is that of the node it names. -/
theorem parentId?_eq_some_iff {key : String} (hn : a.get? i = some n) :
    a.parentId? i = some key ↔ ∃ p m, n.parent? = some p ∧ a.get? p = some m ∧ m.id = key := by
  rw [parentId?, hn, Option.bind_some, Option.map_eq_some_iff]
  constructor
  · rintro ⟨m, hm, hid⟩
    obtain ⟨p, hp, hm⟩ := Option.bind_eq_some_iff.mp hm
    exact ⟨p, m, hp, hm, hid⟩
  · rintro ⟨p, m, hp, hm, hid⟩
    exact ⟨m, Option.bind_eq_some_iff.mpr ⟨p, hp, hm⟩, hid⟩

/-- The id that is read off for a parent tells which node the parent is. -/
theorem Keyed.parentId?_iff (h : a.Keyed) (hn : a.get? k = some n) :
    a.parentId? i = some n.id ↔ (a.get? i).bind (·.parent?) = some k := by
  rw [parentId?, Option.map_eq_some_iff]
  constructor
  · rintro ⟨m, hm, hid⟩
    obtain ⟨p, hp, hm⟩ := Option.bind_eq_some_iff.mp hm
    exact h.unique hm hn hid ▸ hp
  · intro hp
    exact ⟨n, by rw [hp, Option.bind_some, hn], rfl⟩

namespace Linked

/-- The id that is read off for the parent of a node is the id of the parent. -/
theorem rel_parentId? (h : a.Linked loose) (hn : a.get? i = some n) :
    Option.Rel a.Has n.parent? (a.parentId? i) := by
  rw [parentId?, hn, Option.bind_some]
  cases hp : n.parent? with
  | none => exact .none
  | some p =>
      obtain ⟨m, hm, -⟩ := h.parent hn hp
      rw [Option.bind_some, hm]
      exact .some ⟨m, hm, rfl⟩

/-- The ids that are read off for the children of a node are the ids of all its children. -/
theorem forall₂_childIds (h : a.Linked loose) (hn : a.get? i = some n) :
    List.Forall₂ a.Has n.childNodes (a.childIds i) := by
  have hthere : ∀ j ∈ n.childNodes, ∃ m, a.get? j = some m := fun j hj => by
    obtain ⟨-, -, m, hm, -⟩ := h.child hn hj
    exact ⟨m, hm⟩
  rw [childIds, childNodes, hn, Option.map_some, Option.getD_some]
  generalize n.childNodes = numbers at hthere ⊢
  induction numbers with
  | nil => exact .nil
  | cons j rest ih =>
      obtain ⟨m, hm⟩ := hthere j List.mem_cons_self
      rw [List.filterMap_cons, hm]
      exact .cons ⟨m, hm, rfl⟩ (ih fun k hk => hthere k (List.mem_cons_of_mem j hk))

/-! ### Removing -/

/-- What is not below a removed node keeps its id. -/
theorem has_removeSubtree (h : a.Linked loose) (hk : k ∉ a.subtree i) (hid : a.Has k id) :
    (a.removeSubtree i).2.Has k id := by
  obtain ⟨n, hn, rfl⟩ := hid
  exact ⟨_, h.get?_removeSubtree_of_not_mem hn hk, rfl⟩

/-- The parent of a node that is left is left. -/
theorem has_parent_removeSubtree (h : a.Linked []) (hn : a.get? k = some n)
    (hk : k ∉ a.subtree i) (hp : n.parent? = some j) (hid : a.Has j id) :
    (a.removeSubtree i).2.Has j id := by
  refine h.has_removeSubtree (fun hj => hk ?_) hid
  obtain ⟨m, hm, hchild⟩ := h.parent hn hp
  exact h.mem_subtree_child hj hm (hchild List.not_mem_nil)

/-- The children of a node that is left are left, apart from the removed node. -/
theorem has_child_removeSubtree (h : a.Linked []) (hn : a.get? k = some n)
    (hk : k ∉ a.subtree i) (hj : j ∈ n.childNodes) (hne : j ≠ i) (hid : a.Has j id) :
    (a.removeSubtree i).2.Has j id :=
  h.has_removeSubtree (h.child_not_mem_subtree hn hk hj hne) hid

end Linked

/-- The children that are left beneath a node that is left are all but the removed one, in order. -/
theorem childIds_removeSubtree (h : a.Linked []) (hkeyed : a.Keyed) (hn : a.get? i = some n)
    (hp : p ∉ a.subtree i) :
    (a.removeSubtree i).2.childIds p = (a.childIds p).filter (· != n.id) := by
  cases hm : a.get? p with
  | none =>
      have hgone : (a.removeSubtree i).2.get? p = none := by
        rw [get?_removeSubtree, if_neg hp, hm]
        split <;> rfl
      rw [childIds, childIds, childNodes, childNodes, hgone, hm]
      rfl
  | some m =>
      have hthere : ∀ j ∈ m.childNodes, ∃ x, a.get? j = some x ∧
          (j ≠ i → (a.removeSubtree i).2.get? j = some (x.without i)) := fun j hj => by
        obtain ⟨-, -, x, hx, -⟩ := h.child hm hj
        exact ⟨x, hx, fun hne =>
          h.get?_removeSubtree_of_not_mem hx (h.child_not_mem_subtree hm hp hj hne)⟩
      rw [childIds, childIds, childNodes, childNodes, h.get?_removeSubtree_of_not_mem hm hp, hm,
        Option.map_some, Option.map_some, Option.getD_some, Option.getD_some,
        Node.childNodes_without]
      generalize m.childNodes = numbers at hthere ⊢
      induction numbers with
      | nil => rfl
      | cons j rest ih =>
          obtain ⟨x, hx, hstays⟩ := hthere j List.mem_cons_self
          have hrest := ih fun k hk => hthere k (List.mem_cons_of_mem j hk)
          by_cases hji : j = i
          · obtain rfl := hji
            obtain rfl := Option.some.inj (hn.symm.trans hx)
            rw [List.filter_cons_of_neg (by simp), List.filterMap_cons, hx, Option.map_some, hrest]
            exact (List.filter_cons_of_neg (by simp)).symm
          · have hne : x.id ≠ n.id := fun hid => hji (hkeyed.unique hx hn hid)
            rw [List.filter_cons_of_pos (by simpa using hji), List.filterMap_cons, hstays hji,
              List.filterMap_cons, hx, Option.map_some, Option.map_some, hrest]
            change x.id :: _ = (x.id :: _).filter _
            simp [hne]

/-- The ids that still lead to a number are those of the nodes that are left. -/
theorem indexOf?_removeSubtree (h : a.Linked []) (hkeyed : a.Keyed) {key : String} :
    (a.removeSubtree i).2.indexOf? key = some k ↔ a.indexOf? key = some k ∧ k ∉ a.subtree i := by
  rw [(hkeyed.removeSubtree i).indexOf?_iff, hkeyed.indexOf?_iff]
  constructor
  · rintro ⟨m, hm, hid⟩
    obtain ⟨hk, n, hn, rfl⟩ := h.of_get?_removeSubtree hm
    exact ⟨⟨n, hn, hid⟩, hk⟩
  · rintro ⟨hhas, hk⟩
    exact h.has_removeSubtree hk hhas

end Arena

end WidgetFlow
