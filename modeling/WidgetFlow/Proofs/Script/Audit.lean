import WidgetFlow.Proofs.Script.Budget

/-!
# The size check in any order

The check of handler code picks the pending values from the top of a stack, and gives up at the
first one that the rest of the budget does not cover. `Audit.Round` leaves open which pending value
is picked, and where the values below it are put. What is pending, set against what is left of the
budget, stays the same from round to round, whatever is picked (`Rounds.balance`). So all orders
come to the same end; and every order comes to an end, because every round costs something
(`Rounds.length_le`).

## Main results

* `Rounds.fits`, `Rounds.exceeds`: what the end of a check says of its beginning.
* `exists_rounds_of_covers`: the stack is one of the orders.
* `withinBudget_exact`: **the check is exact**, in this order and in every other one.
-/

namespace WidgetFlow.Script

open Value

/-- How far a check has come: what is left of the budget, and the values still to be looked at. -/
structure Audit where
  budget : Nat
  pending : List Value

namespace Audit

variable {s t u : Audit} {v w : Value} {n : Nat}

/-- A check begins with the whole budget and the whole value. -/
def start (v : Value) : Audit := ⟨maxValueSize, [v]⟩

/-- One round: a pending value is paid for, and what is directly below it is pending from now on. -/
inductive Round : Audit → Audit → Prop
  | pay {budget : Nat} {v : Value} {pending rest next : List Value}
      (hpick : pending.Perm (v :: rest)) (hpaid : nodeCost v ≤ budget)
      (hnext : next.Perm (below v ++ rest)) :
      Round ⟨budget, pending⟩ ⟨budget - nodeCost v, next⟩

/-- Several rounds, one after the other. -/
inductive Rounds : Nat → Audit → Audit → Prop
  | refl (s : Audit) : Rounds 0 s s
  | head {s t u : Audit} {n : Nat} (hround : Round s t) (h : Rounds n t u) : Rounds (n + 1) s u

/-- Nothing is left to be looked at. -/
def Passed (s : Audit) : Prop := s.pending = []

/-- There is a pending value that the rest of the budget does not cover. -/
def Overdrawn (s : Audit) : Prop := ∃ v ∈ s.pending, s.budget < nodeCost v

/-! ### Rounds -/

/-- A round takes as much from what is pending as from the budget. -/
theorem Round.balance (h : Round s t) :
    s.budget + itemsSize t.pending = t.budget + itemsSize s.pending := by
  obtain ⟨hpick, hpaid, hnext⟩ := h
  dsimp only
  rw [itemsSize_perm hpick, itemsSize_perm hnext, itemsSize_append, itemsSize, size_eq]
  omega

/-- A round costs something. -/
theorem Round.budget_lt (h : Round s t) : t.budget < s.budget := by
  obtain @⟨budget, v, -, -, -, -, hpaid, -⟩ := h
  have hpos := nodeCost_pos v
  dsimp only
  omega

/-- Rounds take as much from what is pending as from the budget. -/
theorem Rounds.balance (h : Rounds n s t) :
    s.budget + itemsSize t.pending = t.budget + itemsSize s.pending := by
  induction h with
  | refl => rfl
  | head hround _ ih =>
      have hbalance := hround.balance
      omega

/-- There are at most as many rounds as the budget covers. -/
theorem Rounds.length_le (h : Rounds n s t) : n + t.budget ≤ s.budget := by
  induction h with
  | refl => exact (Nat.zero_add _).le
  | head hround _ ih =>
      have hlt := hround.budget_lt
      omega

/-- If a check passes, the budget covers what was pending when it began. -/
theorem Rounds.fits (h : Rounds n s t) (hpassed : t.Passed) :
    itemsSize s.pending ≤ s.budget := by
  have hbalance := h.balance
  rw [hpassed, itemsSize] at hbalance
  omega

/-- If a check gives up, the budget did not cover what was pending when it began. -/
theorem Rounds.exceeds (h : Rounds n s t) (hover : t.Overdrawn) :
    s.budget < itemsSize s.pending := by
  obtain ⟨v, hv, hcost⟩ := hover
  have hbalance := h.balance
  have hle := size_le_itemsSize hv
  rw [size_eq] at hle
  omega

/-- A check that has not passed gives up, or goes on. -/
theorem passed_or_overdrawn_or_round (s : Audit) : s.Passed ∨ s.Overdrawn ∨ ∃ t, Round s t := by
  obtain ⟨budget, _ | ⟨v, rest⟩⟩ := s
  · exact .inl rfl
  · by_cases hcost : nodeCost v ≤ budget
    · exact .inr (.inr ⟨_, .pay (.refl _) hcost (.refl _)⟩)
    · exact .inr (.inl ⟨v, List.mem_cons_self, Nat.lt_of_not_le hcost⟩)

/-- The stack is one of the orders: its check passes or gives up as the answer says. -/
theorem exists_rounds_of_covers (budget : Nat) (pending : List Value) :
    ∃ n s, Rounds n ⟨budget, pending⟩ s ∧
      if covers budget pending then s.Passed else s.Overdrawn := by
  induction budget, pending using covers.induct with
  | case1 budget =>
      refine ⟨0, _, .refl _, ?_⟩
      rw [covers, if_pos rfl]
      rfl
  | case2 budget v pending hcost ih =>
      obtain ⟨n, s, hrounds, hend⟩ := ih
      have hround : Round ⟨budget, v :: pending⟩
          ⟨budget - nodeCost v, (below v).reverse ++ pending⟩ :=
        .pay (.refl _) hcost ((List.reverse_perm _).append_right _)
      refine ⟨n + 1, s, .head hround hrounds, ?_⟩
      rwa [covers, if_pos hcost]
  | case3 budget v pending hcost =>
      refine ⟨0, _, .refl _, ?_⟩
      rw [covers, if_neg hcost, if_neg Bool.false_ne_true]
      exact ⟨v, List.mem_cons_self, Nat.lt_of_not_le hcost⟩

end Audit

open Audit

/-- **The check is exact.** A value passes if its size is at most the greatest size, and is refused
otherwise. The same comes out in whatever order the pending values are looked at, although a check
stops at the first value that is too much: every check that has passed was one of a value that fits,
every check that gives up was one of a value that does not, and no check goes on for more rounds
than the greatest size. -/
theorem withinBudget_exact (v : Value) :
    (withinBudget v = true ↔ v.size ≤ maxValueSize) ∧
    (checked v = if v.size ≤ maxValueSize then .ok v else .error (.tooLarge maxValueSize)) ∧
    (∀ n s, Rounds n (start v) s →
      n ≤ maxValueSize ∧ (s.Passed ∨ s.Overdrawn ∨ ∃ t, Round s t) ∧
      (s.Passed → v.size ≤ maxValueSize) ∧ (s.Overdrawn → maxValueSize < v.size)) ∧
    (∃ n s, Rounds n (start v) s ∧ if withinBudget v then s.Passed else s.Overdrawn) := by
  have hpending : itemsSize (start v).pending = v.size := by
    rw [start, itemsSize, itemsSize, Nat.add_zero]
  refine ⟨withinBudget_iff, ?_, fun n s hrounds => ⟨?_, s.passed_or_overdrawn_or_round, ?_, ?_⟩,
    exists_rounds_of_covers maxValueSize [v]⟩
  · rw [checked]
    simp only [withinBudget_iff]
  · exact (Nat.le_add_right _ _).trans hrounds.length_le
  · exact fun hpassed => hpending ▸ hrounds.fits hpassed
  · exact fun hover => hpending ▸ hrounds.exceeds hover

/-- A list is looked at from the front, which the stack does not do. -/
theorem withinBudget_exact_front :
    let v : Value := .arr [.obj [("key", .null)], .str "text"]
    ∃ s, Rounds 4 (start v) s ∧ s.Passed ∧ v.size ≤ maxValueSize := by
  intro v
  have hrounds : Rounds 4 (start v) ⟨maxValueSize - 1 - 4 - 1 - 5, []⟩ := by
    refine .head (.pay (.refl _) (by decide) (.refl _)) ?_
    refine .head (.pay (.refl _) (by decide) (.refl _)) ?_
    refine .head (.pay (.refl _) (by decide) (.refl _)) ?_
    exact .head (.pay (.refl _) (by decide) (.refl _)) (.refl _)
  obtain ⟨-, -, hany, -⟩ := withinBudget_exact v
  exact ⟨_, hrounds, rfl, (hany 4 _ hrounds).2.2.1 rfl⟩

end WidgetFlow.Script
