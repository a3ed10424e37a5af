import WidgetFlow.Proofs.Dict
import WidgetFlow.Script.Budget
import WidgetFlow.Script.Path
import WidgetFlow.Script.Method

/-!
# The size of values, and the check of it

`Value.size` counts one per node and one per byte of every text and key. The check of handler code
counts the same with a list of nodes still to be looked at, and gives up early; it is exact
(`withinBudget_iff`). What is taken out of a value is never larger than the value (`size_member`,
`size_indexValue`), and what no part of a value goes into has size 1.

## Main results

* `covers_iff`: the walk decides whether the sizes of all pending values add up to the budget.
* `checked_eq_ok`: what passes the check is the value itself, and it is within the budget.
* `size_valueMethod`: a method other than `toString` gives what passed the check.
-/

namespace WidgetFlow

namespace Value

variable {v : Value} {items : List Value} {fields : List (String × Value)}

/-- The sizes of joined lists add up. -/
theorem itemsSize_append (items more : List Value) :
    itemsSize (items ++ more) = itemsSize items + itemsSize more := by
  induction items with
  | nil => rw [List.nil_append, itemsSize, Nat.zero_add]
  | cons v rest ih => rw [List.cons_append, itemsSize, itemsSize, ih, Nat.add_assoc]

/-- The order of a list does not count. -/
theorem itemsSize_perm {more : List Value} (h : items.Perm more) :
    itemsSize items = itemsSize more := by
  induction h with
  | nil => rfl
  | cons v _ ih => rw [itemsSize, itemsSize, ih]
  | swap v w rest => simp only [itemsSize]; omega
  | trans _ _ ih ih' => exact ih.trans ih'

/-- The sizes of the same value many times. -/
theorem itemsSize_replicate (n : Nat) (v : Value) :
    itemsSize (List.replicate n v) = n * v.size := by
  induction n with
  | zero => rw [Nat.zero_mul]; rfl
  | succ n ih => rw [List.replicate_succ, itemsSize, ih, Nat.succ_mul, Nat.add_comm]

/-- Every value has a size. -/
theorem size_pos (v : Value) : 0 < v.size := by
  cases v <;> simp only [size] <;> omega

/-- An item is no larger than all items together. -/
theorem size_le_itemsSize (h : v ∈ items) : v.size ≤ itemsSize items := by
  induction items with
  | nil => exact nomatch h
  | cons w rest ih =>
      rw [itemsSize]
      rcases List.mem_cons.mp h with rfl | h
      · exact Nat.le_add_right _ _
      · exact Nat.le_trans (ih h) (Nat.le_add_left _ _)

/-- The value of a field is no larger than all fields together. -/
theorem size_le_fieldsSize {key : String} (h : (key, v) ∈ fields) : v.size ≤ fieldsSize fields := by
  induction fields with
  | nil => exact nomatch h
  | cons f rest ih =>
      obtain ⟨k, w⟩ := f
      rw [fieldsSize]
      rcases List.mem_cons.mp h with heq | h
      · obtain ⟨rfl, rfl⟩ := Prod.mk.inj heq
        omega
      · exact Nat.le_trans (ih h) (Nat.le_add_left _ _)

/-- A double as a value has no parts. -/
theorem size_ofFloat (x : Float) : (ofFloat x).size = 1 := by
  unfold ofFloat
  split
  · rfl
  · split <;> rfl

end Value

namespace Script

open Value

/-! ### The check -/

/-- The fields of a record together: the bytes of their keys, and their values. -/
theorem fieldsSize_eq (fields : List (String × Value)) :
    fieldsSize fields =
      (fields.map fun f => f.1.utf8ByteSize).sum + itemsSize (fields.map (·.2)) := by
  induction fields with
  | nil => rfl
  | cons f rest ih =>
      rw [fieldsSize, ih, List.map_cons, List.map_cons, List.sum_cons, itemsSize]
      omega

/-- A value is its topmost node and what is below. -/
theorem size_eq (v : Value) : v.size = nodeCost v + itemsSize (below v) := by
  cases v with
  | obj fields => rw [size, fieldsSize_eq, nodeCost, below, Nat.add_assoc]
  | arr items => rw [size]; rfl
  | _ => rfl

/-- The walk decides whether the budget covers all pending values. -/
theorem covers_iff (budget : Nat) (pending : List Value) :
    covers budget pending = true ↔ itemsSize pending ≤ budget := by
  induction budget, pending using covers.induct with
  | case1 budget =>
      rw [covers]
      exact iff_of_true rfl (Nat.zero_le _)
  | case2 budget v pending hcost ih =>
      rw [covers, if_pos hcost, ih, itemsSize_append, itemsSize_perm (List.reverse_perm _),
        itemsSize, size_eq v]
      omega
  | case3 budget v pending hcost =>
      rw [covers, if_neg hcost, itemsSize, size_eq v]
      exact iff_of_false Bool.false_ne_true (by omega)

/-- The check is exact. -/
theorem withinBudget_iff {v : Value} : withinBudget v = true ↔ v.size ≤ maxValueSize := by
  rw [withinBudget, covers_iff, itemsSize, itemsSize, Nat.add_zero]

/-- What passes the check is the value itself, and it is within the budget. -/
theorem checked_eq_ok {v w : Value} : checked v = .ok w ↔ w = v ∧ v.size ≤ maxValueSize := by
  rw [checked]
  split
  · next h =>
      rw [Except.ok.injEq, eq_comm]
      exact (and_iff_left (withinBudget_iff.mp h)).symm
  · next h =>
      exact iff_of_false nofun fun hw => h (withinBudget_iff.mpr hw.2)

/-! ### Parts of values -/

/-- A value without parts is within the budget. -/
theorem one_le_maxValueSize : 1 ≤ maxValueSize := by decide

/-- A member other than the id of a selection is no larger than what it is a member of. -/
theorem size_member {o : Operand} {name : String} (hname : name ≠ "id") :
    (member o name).size ≤ o.toValue.size := by
  unfold member
  split
  · exact size_pos _
  · exact size_pos _
  · next _ fields =>
      cases hv : Dict.get? fields name with
      | none => exact size_pos _
      | some v =>
          exact Nat.le_trans (size_le_fieldsSize (Dict.mem_of_get? hv)) (Nat.le_add_left _ _)
  · exact absurd rfl hname
  · exact size_pos _
  · exact (size_ofFloat _).le
  · exact (size_ofFloat _).le
  · exact size_pos _

/-- An item at an index is an item. -/
theorem mem_of_itemAt? {α : Type} {items : List α} {index : Value} {a : α}
    (h : itemAt? items index = some a) : a ∈ items := by
  obtain ⟨i, -, hi⟩ := Option.bind_eq_some_iff.mp h
  exact List.mem_of_getElem? hi

/-- A single character is a small text. -/
theorem size_singleton_le (c : Char) : (Value.str (String.singleton c)).size ≤ 5 := by
  have hc : c.utf8Size ≤ 4 := c.utf8Size_le_four
  rw [size, String.utf8ByteSize_singleton]
  omega

/-- What is taken out at an index is within the budget if the value it is taken from is. -/
theorem size_indexValue {o : Operand} (index : Value) (h : o.toValue.size ≤ maxValueSize) :
    (indexValue o index).size ≤ maxValueSize := by
  unfold indexValue
  split
  · next items =>
      cases hv : itemAt? items index with
      | none => exact one_le_maxValueSize
      | some v =>
          refine Nat.le_trans (size_le_itemsSize (mem_of_itemAt? hv)) (Nat.le_trans ?_ h)
          exact Nat.le_add_left _ _
  · next fields =>
      cases hv : Dict.get? fields index.toText with
      | none => exact one_le_maxValueSize
      | some v =>
          refine Nat.le_trans (size_le_fieldsSize (Dict.mem_of_get? hv)) (Nat.le_trans ?_ h)
          exact Nat.le_add_left _ _
  · next s =>
      cases hc : itemAt? s.toList index with
      | none => exact one_le_maxValueSize
      | some c => exact Nat.le_trans (size_singleton_le c) (by decide)
  · exact one_le_maxValueSize

/-! ### Methods -/

/-- What is checked at last is within the budget. -/
theorem size_of_bind_checked {result : Except RunError Value} {w : Value}
    (h : result.bind checked = .ok w) : w.size ≤ maxValueSize := by
  cases result with
  | error e => exact nomatch h
  | ok v =>
      obtain ⟨rfl, hv⟩ := checked_eq_ok.mp h
      exact hv

/-- A method other than `toString` gives what passed the check. -/
theorem size_valueMethod {v w : Value} {method : String} {args : List Value}
    (hmethod : method ≠ "toString") (h : valueMethod v method args = .ok w) :
    w.size ≤ maxValueSize := by
  unfold valueMethod at h
  rw [if_neg hmethod] at h
  exact size_of_bind_checked h

/-- A function of `Math` gives a value without parts. -/
theorem size_mathFunction {method : String} {args : List Value} {w : Value}
    (h : mathFunction method args = .ok w) : w.size = 1 := by
  unfold mathFunction at h
  dsimp only at h
  split at h
  case h_8 => exact nomatch h
  all_goals
    rw [← Except.ok.inj h]
    exact size_ofFloat _

end Script

end WidgetFlow
