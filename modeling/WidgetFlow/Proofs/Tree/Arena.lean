import WidgetFlow.Proofs.Dict
import WidgetFlow.Tree.Arena

/-!
# What the operations of the arena do

For each operation of the arena, what is found under a number afterwards, which numbers are roots,
and what the ids stand for.

## Main results

* `get?_insert`, `get?_modify`, `get?_drop`, `get?_detach`, `get?_removeSubtree`: the look-up laws.
* `mem_live`: the nodes that are listed are those that are found.
-/

namespace WidgetFlow

/-- The numbers of the children are those that the list of children names. -/
theorem Node.mem_childNodes {n : Node} {i : Nat} :
    i ∈ n.childNodes ↔ Child.node i ∈ n.children := by
  rw [childNodes, List.mem_filterMap]
  constructor
  · rintro ⟨child, hmem, heq⟩
    cases child with
    | text content =>
        exact nomatch heq
    | node index =>
        exact Option.some.inj heq ▸ hmem
  · exact fun h => ⟨.node i, h, rfl⟩

/-- A node without the child of a number. -/
def Node.without (n : Node) (i : Nat) : Node :=
  { n with children := n.children.filter (· != Child.node i) }

/-- Nothing is taken out of a node that has no child of the number. -/
theorem Node.without_eq_self {n : Node} {i : Nat} (h : i ∉ n.childNodes) : n.without i = n := by
  have hfilter : n.children.filter (· != Child.node i) = n.children :=
    List.filter_eq_self.mpr fun child hchild => bne_iff_ne.mpr fun heq =>
      h (Node.mem_childNodes.mpr (heq ▸ hchild))
  rw [without, hfilter]

/-- The children that are left when one is taken out. -/
theorem Node.childNodes_without {n : Node} {i : Nat} :
    (n.without i).childNodes = n.childNodes.filter (· != i) := by
  rw [childNodes, childNodes, without, List.filterMap_filter, List.filter_filterMap]
  refine congrArg (List.filterMap · n.children) (funext fun child => ?_)
  cases child with
  | text content => rfl
  | node j =>
      by_cases hj : j = i
      · simp [Child.node?, Option.filter, hj]
      · simp [Child.node?, Option.filter, hj]

namespace Arena

variable {a : Arena} {node : Node} {change : Node → Node} {i j : Nat}

/-! ### Look-up -/

/-- A number that was never given has no node. -/
theorem get?_eq_none (h : a.slots.length ≤ i) : a.get? i = none := by
  rw [get?, List.getElem?_eq_none h]
  rfl

/-- A number with a node was given. -/
theorem lt_of_get? (h : a.get? i = some node) : i < a.slots.length := by
  refine Nat.lt_of_not_le fun hle => ?_
  rw [get?_eq_none hle] at h
  exact nomatch h

/-- There is nothing in an empty arena. -/
@[simp] theorem get?_empty : ({} : Arena).get? i = none := get?_eq_none (Nat.zero_le i)

/-- The nodes that are listed are those that are found. -/
theorem mem_live : (i, node) ∈ a.live ↔ a.get? i = some node := by
  have hslot : ∀ slot : Option Node, (slot, i) ∈ a.slots.zipIdx ↔ a.slots[i]? = some slot :=
    fun slot => List.mk_mem_zipIdx_iff_getElem?
  rw [live, List.mem_filterMap, get?]
  constructor
  · rintro ⟨⟨slot, index⟩, hmem, heq⟩
    cases slot with
    | none =>
        exact nomatch heq
    | some found =>
        obtain ⟨rfl, rfl⟩ := Prod.mk.inj (Option.some.inj heq)
        rw [(hslot _).mp hmem]
        rfl
  · intro h
    refine ⟨(some node, i), (hslot _).mpr ?_, rfl⟩
    cases hi : a.slots[i]? with
    | none =>
        rw [hi] at h
        exact nomatch h
    | some slot =>
        rw [hi] at h
        exact congrArg some h

/-! ### Inserting -/

/-- The node that is inserted is found under the next number. -/
theorem get?_insert :
    (a.insert node).2.get? i = if i = a.slots.length then some node else a.get? i := by
  change ((a.slots ++ [some node])[i]?).join = _
  split
  · next h =>
      subst h
      rw [List.getElem?_concat_length]
      rfl
  · next h =>
      rcases Nat.lt_or_ge i a.slots.length with hlt | hge
      · rw [List.getElem?_append_left hlt]
        rfl
      · rw [get?_eq_none hge, List.getElem?_eq_none]
        · rfl
        · rw [List.length_append, List.length_singleton]
          omega

/-- The node that is inserted is there. -/
theorem get?_insert_self : (a.insert node).2.get? a.slots.length = some node := by
  rw [get?_insert, if_pos rfl]

/-- Inserting takes one more slot. -/
theorem length_insert : (a.insert node).2.slots.length = a.slots.length + 1 :=
  List.length_append

/-- What was there before is still there. -/
theorem get?_insert_of_lt (h : i < a.slots.length) : (a.insert node).2.get? i = a.get? i := by
  rw [get?_insert, if_neg (Nat.ne_of_lt h)]

/-! ### Changing one node -/

/-- A change reaches the node of its number only. -/
theorem get?_modify : (a.modify i change).get? j = if i = j then (a.get? j).map change
    else a.get? j := by
  change ((a.slots.modify i (Option.map change))[j]?).join = _
  rw [List.getElem?_modify]
  split
  · rw [get?]
    cases a.slots[j]? with
    | none =>
        rfl
    | some slot =>
        cases slot <;> rfl
  · rw [get?]
    cases a.slots[j]? <;> rfl

/-- A change keeps the slots. -/
theorem length_modify : (a.modify i change).slots.length = a.slots.length :=
  List.length_modify ..

/-- A change leaves other numbers alone. -/
theorem get?_modify_of_ne (h : i ≠ j) : (a.modify i change).get? j = a.get? j := by
  rw [get?_modify, if_neg h]

/-! ### Removing -/

/-- Emptying a slot empties this slot only. -/
theorem get?_drop : (a.drop i).get? j = if i = j then none else a.get? j := by
  rw [drop]
  split
  · next h =>
      split
      · next hij => rw [← hij, h]
      · rfl
  · next node h =>
      change ((a.slots.set i none)[j]?).join = _
      rw [List.getElem?_set]
      split
      · split <;> rfl
      · rfl

/-- Emptying a slot keeps the number of slots. -/
theorem length_drop : (a.drop i).slots.length = a.slots.length := by
  rw [drop]
  split
  · rfl
  · exact List.length_set

/-- Emptying a slot keeps the roots. -/
theorem roots_drop : (a.drop i).roots = a.roots := by
  rw [drop]
  split <;> rfl

/-- Emptying several slots empties these slots only. -/
theorem get?_foldl_drop (doomed : List Nat) (a : Arena) :
    (doomed.foldl drop a).get? j = if j ∈ doomed then none else a.get? j := by
  induction doomed generalizing a with
  | nil =>
      rfl
  | cons i rest ih =>
      rw [List.foldl_cons, ih, get?_drop]
      by_cases hrest : j ∈ rest
      · rw [if_pos hrest, if_pos (List.mem_cons_of_mem i hrest)]
      · rw [if_neg hrest]
        by_cases hij : i = j
        · rw [if_pos hij, if_pos (hij ▸ List.mem_cons_self)]
        · rw [if_neg hij, if_neg]
          rintro (_ | ⟨_, hmem⟩)
          · exact hij rfl
          · exact hrest hmem

/-- Emptying several slots keeps the number of slots. -/
theorem length_foldl_drop (doomed : List Nat) (a : Arena) :
    (doomed.foldl drop a).slots.length = a.slots.length := by
  induction doomed generalizing a with
  | nil =>
      rfl
  | cons i rest ih =>
      rw [List.foldl_cons, ih, length_drop]

/-- Emptying several slots keeps the roots. -/
theorem roots_foldl_drop (doomed : List Nat) (a : Arena) :
    (doomed.foldl drop a).roots = a.roots := by
  induction doomed generalizing a with
  | nil =>
      rfl
  | cons i rest ih =>
      rw [List.foldl_cons, ih, roots_drop]

/-- Taking a node out of its parent changes the children of the parent only. -/
theorem get?_detach : (a.detach i).get? j =
    if (a.get? i).bind (·.parent?) = some j then (a.get? j).map (·.without i) else a.get? j := by
  rw [detach]
  cases h : (a.get? i).bind (·.parent?) with
  | none =>
      rw [if_neg (by simp)]
      rfl
  | some parent =>
      change (a.modify parent (·.without i)).get? j = _
      rw [get?_modify]
      by_cases hj : parent = j
      · rw [if_pos hj, if_pos (congrArg some hj)]
      · rw [if_neg hj, if_neg fun heq => hj (Option.some.inj heq)]

/-- Taking a node out of its parent keeps the number of slots. -/
theorem length_detach : (a.detach i).slots.length = a.slots.length := by
  rw [detach]
  cases (a.get? i).bind (·.parent?) with
  | none =>
      rfl
  | some parent =>
      exact length_modify

/-- A node that is taken out is no root. -/
theorem roots_detach : (a.detach i).roots = a.roots.filter (· != i) := by
  rw [detach]
  cases (a.get? i).bind (·.parent?) <;> rfl

/-- A removal empties the slots below a number, and takes the number out of its parent. -/
theorem get?_removeSubtree : (a.removeSubtree i).2.get? j =
    if j ∈ a.subtree i then none
    else if (a.get? i).bind (·.parent?) = some j then (a.get? j).map (·.without i)
    else a.get? j := by
  change ((a.subtree i).foldl drop (a.detach i)).get? j = _
  rw [get?_foldl_drop, get?_detach]

/-- A removal keeps the number of slots. -/
theorem length_removeSubtree : (a.removeSubtree i).2.slots.length = a.slots.length :=
  (length_foldl_drop _ _).trans length_detach

/-- A removal takes the number out of the roots. -/
theorem roots_removeSubtree : (a.removeSubtree i).2.roots = a.roots.filter (· != i) :=
  (roots_foldl_drop _ _).trans roots_detach

end Arena

end WidgetFlow
