/-!
# Character sets as ranges

A property of characters is held as a list of closed ranges of code points in increasing order.
Membership stops at the first range that does not end before the code point, so a small code
point is decided after a few comparisons however long the list is.
-/

namespace WidgetFlow.Text

/-- Whether `n` lies in one of the ranges, which are in increasing order and do not overlap. -/
def inRanges (n : Nat) : List (Nat × Nat) → Bool
  | [] => false
  | (lo, hi) :: rest => if n ≤ hi then lo ≤ n else inRanges n rest

/-- Ranges in increasing order, none touching the next. -/
def OrderedRanges (ranges : List (Nat × Nat)) : Prop :=
  (∀ r ∈ ranges, r.1 ≤ r.2) ∧ ranges.Pairwise (fun a b => a.2 < b.1)

/-- On ordered ranges the early stop loses nothing: membership is membership in some range. -/
theorem inRanges_iff {n : Nat} {ranges : List (Nat × Nat)} (h : OrderedRanges ranges) :
    inRanges n ranges = true ↔ ∃ r ∈ ranges, r.1 ≤ n ∧ n ≤ r.2 := by
  obtain ⟨hle, hpair⟩ := h
  induction ranges with
  | nil => simp [inRanges]
  | cons r rest ih =>
    obtain ⟨lo, hi⟩ := r
    rw [List.pairwise_cons] at hpair
    have hrest := ih (fun r hr => hle r (List.mem_cons_of_mem _ hr)) hpair.2
    rw [inRanges]
    split
    · rename_i hn
      simp only [decide_eq_true_eq, List.mem_cons, exists_eq_or_imp]
      refine ⟨fun h => Or.inl ⟨h, hn⟩, fun h => h.elim (·.1) ?_⟩
      rintro ⟨r, hr, hlo, _⟩
      have := hpair.1 r hr
      omega
    · rename_i hn
      simp only [hrest, List.mem_cons, exists_eq_or_imp, hn, and_false, false_or]

end WidgetFlow.Text
