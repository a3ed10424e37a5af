import WidgetFlow.Script.Method
import WidgetFlow.Proofs.Decimal.Exact

/-!
# The bounds of a slice

A bound of a slice is a number. It asks for a position (`slicePosition`): it is rounded toward zero,
counts from the end if it is negative then, and is clamped to the list. This module says which
position a bound is taken for (`taken`), and when that is the one it asks for.

## Conventions

Numbers are the rational numbers that doubles are (`Decimal.exact`). The sign of a bound is looked
at before it is rounded. This makes a difference for the numbers between `-1` and `0`, which are
negative, but not after rounding: such a bound `Slips`, and is taken for the end of the list and not
for its start. A bound that is missing or null asks for its default. A length fits into a word.

## Main results

* `start_le_stop`, `stop_le_length`: whatever the bounds are, they stay in order and in the list.
* `sliceBound_eq`: what a bound is taken for.
* `sliceBounds_iff`: **the bounds of a slice are the positions they ask for, unless one slips.**
-/

namespace WidgetFlow.Script

open Decimal

variable {length : Nat} {q : ℚ}

/-! ### Bounds stay in the list -/

/-- A bound is not beyond the end of the list, if its default is not. -/
theorem sliceBound_le {default : Nat} (hdefault : default ≤ length) (arg : Option Value) :
    sliceBound length default arg ≤ length := by
  rw [sliceBound.eq_def]
  split
  · exact hdefault
  · exact hdefault
  · dsimp only
    split
    · exact Nat.zero_le _
    · split
      · exact Nat.sub_le _ _
      · exact Nat.min_le_right _ _

/-- The start of a slice is not behind its end. -/
theorem start_le_stop (length : Nat) (start stop : Option Value) :
    (sliceBounds length start stop).1 ≤ (sliceBounds length start stop).2 :=
  Nat.le_max_right _ _

/-- The end of a slice is not beyond the end of the list. -/
theorem stop_le_length (length : Nat) (start stop : Option Value) :
    (sliceBounds length start stop).2 ≤ length :=
  Nat.max_le.mpr ⟨sliceBound_le le_rfl stop, sliceBound_le (Nat.zero_le _) start⟩

/-! ### The position that a bound asks for -/

/-- The position that a number asks for in a list: it is rounded toward zero, then counted from the
end if it is negative, then clamped to the list. -/
def slicePosition (length : Nat) (q : ℚ) : Nat :=
  let i := towardZero q
  (max 0 (min (if i < 0 then i + length else i) length)).toNat

/-- An argument asks for a number: it is a finite number, or it is missing and the number is the
default. -/
def Asks (default : Nat) (arg : Option Value) (q : ℚ) : Prop :=
  match arg with
  | none => q = default
  | some .null => q = default
  | some v => isFinite v.toNumber = true ∧ q = exact v.toNumber

/-- A number is negative, but not after it is rounded toward zero. -/
def Slips (q : ℚ) : Prop := -1 < q ∧ q < 0

instance : DecidablePred Slips := fun q => inferInstanceAs (Decidable (-1 < q ∧ q < 0))

/-- What a bound is taken for that asks for a number. -/
def taken (length : Nat) (q : ℚ) : Nat := if Slips q then length else slicePosition length q

/-- No position is beyond the end of the list. -/
theorem slicePosition_le (length : Nat) (q : ℚ) : slicePosition length q ≤ length := by
  rw [slicePosition]
  omega

/-- A number that slips is rounded to zero. -/
theorem Slips.towardZero_eq_zero (hq : Slips q) : towardZero q = 0 := by
  rw [towardZero, if_neg (not_le.mpr hq.2), Int.ceil_eq_zero_iff]
  exact ⟨hq.1, hq.2.le⟩

/-- A negative number that does not slip stays negative. -/
theorem towardZero_neg_of_not_slips (hq : q < 0) (hslips : ¬ Slips q) : towardZero q < 0 := by
  have hle : q ≤ ((-1 : Int) : ℚ) := by
    rw [Int.cast_neg, Int.cast_one]
    exact not_lt.mp fun h => hslips ⟨h, hq⟩
  have hceil := Int.ceil_le.mpr hle
  rw [towardZero, if_neg (not_le.mpr hq)]
  omega

/-- A number that slips asks for the start of the list. -/
theorem Slips.slicePosition_eq_zero (hq : Slips q) : slicePosition length q = 0 := by
  rw [slicePosition, hq.towardZero_eq_zero]
  simp

/-- A count that is in the list asks for itself. -/
theorem slicePosition_natCast {n : Nat} (hn : n ≤ length) : slicePosition length n = n := by
  rw [slicePosition, towardZero_natCast]
  omega

/-! ### What a bound is taken for -/

/-- A bound that is a value other than null is read as a number. -/
theorem sliceBound_some {default : Nat} {v : Value} (hv : v ≠ .null) :
    sliceBound length default (some v) =
      if isNaN v.toNumber then 0
      else if v.toNumber < 0.0 then length - toIndex (-v.toNumber)
      else min (toIndex v.toNumber) length := by
  cases v with
  | null => exact absurd rfl hv
  | _ => rfl

/-- A finite number is taken for the position it asks for, unless it slips. -/
theorem sliceBound_of_finite {default : Nat} {v : Value} (hlength : length < 2 ^ 64)
    (hv : v ≠ .null) (hfinite : isFinite v.toNumber = true) :
    sliceBound length default (some v) = taken length (exact v.toNumber) := by
  rw [sliceBound_some hv, isNaN_of_isFinite hfinite, taken, slicePosition]
  rw [if_neg Bool.false_ne_true]
  have hindex := toIndex_eq hfinite
  by_cases hnegative : exact v.toNumber < 0
  · obtain ⟨hneg, hopposite⟩ := exact_neg hfinite hnegative
    have hback := toIndex_eq hneg
    rw [hopposite, towardZero_neg] at hback
    rw [if_pos ((lt_zero_iff hfinite).mpr hnegative)]
    split
    · next hslips =>
        rw [hslips.towardZero_eq_zero] at hback
        omega
    · next hslips =>
        have hround := towardZero_neg_of_not_slips hnegative hslips
        omega
  · have hround := towardZero_nonneg (not_lt.mp hnegative)
    rw [if_neg fun h => hnegative ((lt_zero_iff hfinite).mp h), if_neg fun h => hnegative h.2]
    omega

/-- A default is taken for itself. -/
theorem taken_natCast {n : Nat} (hn : n ≤ length) : taken length n = n := by
  rw [taken, if_neg fun h => absurd (Nat.cast_nonneg n) (not_le.mpr h.2), slicePosition_natCast hn]

/-- A bound is taken for the position it asks for, unless it slips. -/
theorem sliceBound_eq {default : Nat} {arg : Option Value} (hlength : length < 2 ^ 64)
    (hdefault : default ≤ length) (h : Asks default arg q) :
    sliceBound length default arg = taken length q := by
  rcases arg with - | v
  · obtain rfl := h
    exact (taken_natCast hdefault).symm
  · by_cases hv : v = .null
    · subst hv
      obtain rfl := h
      exact (taken_natCast hdefault).symm
    · obtain ⟨hfinite, rfl⟩ : isFinite v.toNumber = true ∧ q = exact v.toNumber := by
        cases v with
        | null => exact absurd rfl hv
        | _ => exact h
      exact sliceBound_of_finite hlength hv hfinite

/-- No bound is taken for a position beyond the end of the list. -/
theorem taken_le (length : Nat) (q : ℚ) : taken length q ≤ length := by
  rw [taken]
  split
  · exact le_rfl
  · exact slicePosition_le length q

/-! ### Slices -/

/-- **The bounds of a slice are the positions they ask for, unless one slips.** They are always in
order and in the list, and the slice has the items between what they are taken for. They are the
positions they ask for exactly if the list is empty, or the start does not slip and the end may only
slip if the start is the end of the list. -/
theorem sliceBounds_iff {α : Type} (items : List α) {start stop : Option Value} {p q : ℚ}
    (hlength : items.length < 2 ^ 64) (hstart : Asks 0 start p)
    (hstop : Asks items.length stop q) :
    (sliceBounds items.length start stop).1 ≤ (sliceBounds items.length start stop).2 ∧
    (sliceBounds items.length start stop).2 ≤ items.length ∧
    slice items start stop = (items.take (taken items.length q)).drop (taken items.length p) ∧
    (sliceBounds items.length start stop = (slicePosition items.length p,
        max (slicePosition items.length p) (slicePosition items.length q)) ↔
      items.length = 0 ∨
        ¬ Slips p ∧ (Slips q → slicePosition items.length p = items.length)) := by
  have hfirst : sliceBound items.length 0 start = taken items.length p :=
    sliceBound_eq hlength (Nat.zero_le _) hstart
  have hlast : sliceBound items.length items.length stop = taken items.length q :=
    sliceBound_eq hlength le_rfl hstop
  refine ⟨start_le_stop _ start stop, stop_le_length _ start stop, ?items, ?bounds⟩
  case items =>
    rw [slice, sliceBounds, hfirst, hlast, List.drop_take]
    change (items.drop _).take (max _ _ - _) = _
    congr 1
    omega
  case bounds =>
    rw [sliceBounds, hfirst, hlast, Prod.mk.injEq]
    have hlast := taken_le items.length q
    have hstop := slicePosition_le items.length q
    by_cases hp : Slips p
    · -- the start is taken for the end of the list, and it asks for the start
      rw [taken, if_pos hp, hp.slicePosition_eq_zero]
      simp only [hp, not_true_eq_false, false_and, or_false]
      omega
    · have hstart := slicePosition_le items.length p
      rw [taken, taken, if_neg hp]
      by_cases hq : Slips q
      · simp only [hp, hq, hq.slicePosition_eq_zero, if_true, not_false_eq_true, true_and,
          forall_const]
        omega
      · simp [hp, hq, Nat.max_comm]

/-- A finite double asks for its rational number. -/
theorem asks_float {default : Nat} {x : Float} {d : Decimal.Dyadic} (hfinite : isFinite x = true)
    (hparts : Decimal.Dyadic.ofFloat x = d) (hd : d.toRat = q) :
    Asks default (some (.num (.float x))) q := by
  subst hparts hd
  exact ⟨hfinite, rfl⟩

/-- A bound of one and a half items before the end asks for minus one and a half. -/
theorem asks_minus_three_halves : Asks 0 (some (.num (.float (-1.5)))) (-3 / 2) :=
  asks_float (d := ⟨true, 6755399441055744, -52⟩) (by decide +kernel) (by decide +kernel)
    (by norm_num [Decimal.Dyadic.toRat, Decimal.Dyadic.magnitude])

/-- A start of one and a half items before the end is the last item. -/
theorem sliceBounds_iff_three_halves :
    sliceBounds 3 (some (.num (.float (-1.5)))) none = (slicePosition 3 (-3 / 2), 3) ∧
      slice ["a", "b", "c"] (some (.num (.float (-1.5)))) none = ["c"] := by
  obtain ⟨-, -, hitems, hbounds⟩ :=
    sliceBounds_iff ["a", "b", "c"] (by decide) asks_minus_three_halves
      (show Asks 3 none 3 from rfl)
  refine ⟨?bounds, ?items⟩
  case bounds =>
    exact (hbounds.mpr (.inr ⟨by decide +kernel, by decide +kernel⟩)).trans (by decide +kernel)
  case items => exact hitems.trans (by decide +kernel)

/-- A start of half an item before the end asks for the start of the list, and is taken for its
end. -/
theorem sliceBounds_slip : Asks 0 (some (.num (.float (-0.5)))) (-1 / 2) ∧ Asks 3 none 3 ∧
    (slicePosition 3 (-1 / 2), max (slicePosition 3 (-1 / 2)) (slicePosition 3 3)) = (0, 3) ∧
    sliceBounds 3 (some (.num (.float (-0.5)))) none = (3, 3) := by
  refine ⟨?asks, rfl, by decide +kernel, by decide +kernel⟩
  exact asks_float (d := ⟨true, 4503599627370496, -53⟩) (by decide +kernel) (by decide +kernel)
    (by norm_num [Decimal.Dyadic.toRat, Decimal.Dyadic.magnitude])

end WidgetFlow.Script
