import Mathlib.Data.List.Basic

/-!
# The digits of a number

Connections, applications and nodes without an id of their own are named after numbers. The digits
of a number tell the number, and none of them is one of the signs that stand beside them.
-/

namespace WidgetFlow

/-- The digits of a number tell the number. -/
theorem toDigits_injective {m n : Nat} (h : Nat.toDigits 10 m = Nat.toDigits 10 n) : m = n := by
  rw [← Nat.ofDigitChars_toDigits (b := 10) (n := m) (by omega) (by omega), h,
    Nat.ofDigitChars_toDigits (by omega) (by omega)]

/-- No digit is a minus or a slash. -/
theorem ne_of_mem_toDigits {n : Nat} {c : Char} (h : c ∈ Nat.toDigits 10 n) :
    c ≠ '-' ∧ c ≠ '/' := by
  have hdigit := Nat.isDigit_of_mem_toDigits (by omega) (by omega) h
  constructor
  · rintro rfl
    exact absurd hdigit (by decide)
  · rintro rfl
    exact absurd hdigit (by decide)

end WidgetFlow
