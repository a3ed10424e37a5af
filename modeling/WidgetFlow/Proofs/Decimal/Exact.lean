import WidgetFlow.Proofs.Decimal.Whole

/-!
# What a double is worth

A finite double is a rational number. This module says which one, and what the operations on doubles
do to it: truncation rounds it toward zero, the comparison with zero is the comparison of the
rational number, and negation changes its sign and nothing else.

## Main results

* `truncate_eq_towardZero`, `toIndex_eq`: truncation rounds the rational number toward zero, and an
  index is clamped after that.
* `lt_zero_iff`: a double is below zero if its rational number is.
* `unpack_neg`, `exact_neg`: negation is exact.
-/

namespace WidgetFlow.Decimal

open Float.Model Float.Model.UnpackedFloat

variable {x : Float} {s : Sign} {m : Nat} {e : Int} {hm : 0 < m}

/-! ### The rational number of a double -/

/-- The magnitude of a dyadic number. -/
def Dyadic.magnitude (d : Dyadic) : ℚ := d.mantissa * 2 ^ d.exponent

/-- The rational number that a dyadic number is. -/
def Dyadic.toRat (d : Dyadic) : ℚ := if d.negative then -d.magnitude else d.magnitude

/-- The rational number that a finite double is. -/
def exact (x : Float) : ℚ := (Dyadic.ofFloat x).toRat

/-- A rational number rounded toward zero. -/
def towardZero (q : ℚ) : Int := if 0 ≤ q then ⌊q⌋ else ⌈q⌉

/-- A magnitude is not negative. -/
theorem Dyadic.magnitude_nonneg (d : Dyadic) : 0 ≤ d.magnitude :=
  mul_nonneg (Nat.cast_nonneg _) (zpow_nonneg (by decide) _)

/-- The whole part is the magnitude rounded down. -/
theorem Dyadic.wholePart_eq_floor (d : Dyadic) : (d.wholePart : Int) = ⌊d.magnitude⌋ := by
  rw [wholePart, magnitude]
  split
  · next hexponent =>
      obtain ⟨k, hk⟩ := Int.eq_ofNat_of_zero_le hexponent
      rw [hk, Int.toNat_natCast, zpow_natCast]
      exact_mod_cast (Int.floor_natCast (R := ℚ) _).symm
  · next hexponent =>
      obtain ⟨k, hk⟩ : ∃ k : Nat, d.exponent = -k := ⟨(-d.exponent).toNat, by omega⟩
      rw [hk, Int.neg_neg, Int.toNat_natCast, zpow_neg, zpow_natCast, ← div_eq_mul_inv]
      exact_mod_cast (Rat.floor_natCast_div_natCast d.mantissa (2 ^ k)).symm

/-- Rounding toward zero forgets the sign. -/
theorem towardZero_neg (q : ℚ) : towardZero (-q) = -towardZero q := by
  rw [towardZero, towardZero]
  rcases lt_trichotomy q 0 with hq | rfl | hq
  · rw [if_pos (by linarith), if_neg (by linarith), Int.floor_neg]
  · simp
  · rw [if_neg (by linarith), if_pos hq.le, Int.ceil_neg]

/-- **Truncation rounds toward zero.** -/
theorem truncate_eq_towardZero (x : Float) : truncate x = towardZero (exact x) := by
  have hwhole : ((Dyadic.ofFloat x).wholePart : Int) = towardZero (Dyadic.ofFloat x).magnitude := by
    rw [Dyadic.wholePart_eq_floor, towardZero, if_pos (Dyadic.magnitude_nonneg _)]
  rw [truncate, exact, Dyadic.toRat]
  split
  · rw [towardZero_neg, hwhole]
  · exact hwhole

/-- A number that is not negative is not so after rounding. -/
theorem towardZero_nonneg {q : ℚ} (hq : 0 ≤ q) : 0 ≤ towardZero q := by
  rw [towardZero, if_pos hq]
  exact Int.floor_nonneg.mpr hq

/-- A whole number is rounded to itself. -/
theorem towardZero_natCast (n : Nat) : towardZero n = n := by
  rw [towardZero, if_pos (Nat.cast_nonneg n)]
  exact Int.floor_natCast n

/-- The index of a finite double is its rational number, rounded toward zero and clamped. -/
theorem toIndex_eq (hfinite : isFinite x = true) :
    (toIndex x : Int) = max 0 (min (2 ^ 64 - 1) (towardZero (exact x))) := by
  rw [toIndex, clampTruncate, isNaN_of_isFinite hfinite, hfinite, truncate_eq_towardZero]
  simp only [Bool.false_eq_true, if_false, Bool.not_true]
  omega

/-! ### The sign -/

/-- A magnitude with a sign. -/
def withSign (s : Sign) (q : ℚ) : ℚ :=
  match s with
  | .positive => q
  | .negative => -q

/-- The rational number of a double whose parts are known. -/
theorem exact_of_unpack (h : x.toModel.unpack = .finite s m e hm) :
    exact x = withSign s ((m : ℚ) * 2 ^ e) := by
  obtain ⟨hnegative, hmantissa, hexponent⟩ := ofFloat_of_unpack h
  rw [exact, Dyadic.toRat, Dyadic.magnitude, hmantissa, hexponent]
  cases s with
  | positive => exact if_neg fun h => nomatch hnegative.mp h
  | negative => exact if_pos (hnegative.mpr rfl)

/-- A double without a mantissa is one of the two zeros. -/
theorem unpack_of_mantissa_eq_zero (h : (Dyadic.ofFloat x).mantissa = 0) :
    ∃ s, x.toModel.unpack = .zero s := by
  rw [Dyadic.ofFloat] at h
  split at h
  · next hfield =>
      have hexponent : @unpackExponent .binary64 x.toModel.toBits.toBitVec = 0#11 :=
        BitVec.eq_of_toNat_eq ((toNat_unpackExponent x).trans hfield)
      have hmantissa : @unpackMantissa .binary64 x.toModel.toBits.toBitVec = 0#52 :=
        BitVec.eq_of_toNat_eq ((toNat_unpackMantissa x).trans h)
      rw [Float.Model.unpack, UnpackedFloat.unpack]
      dsimp only
      rw [hexponent, if_neg (by decide), if_pos rfl, dif_pos hmantissa]
      exact ⟨_, rfl⟩
  · dsimp only at h
    omega

/-- A double without a mantissa is worth nothing. -/
theorem exact_of_mantissa_eq_zero (h : (Dyadic.ofFloat x).mantissa = 0) : exact x = 0 := by
  simp [exact, Dyadic.toRat, Dyadic.magnitude, h]

/-- A double is compared with zero by its parts. -/
theorem lt_zero_iff_unpack : x < 0.0 ↔ x.toModel.unpack.lt (.zero .positive) = true := by
  have hzero : (0.0 : Float).toModel.unpack = .zero .positive := by rfl
  change decide (x.toModel.unpack.lt (0.0 : Float).toModel.unpack = true) = true ↔ _
  rw [hzero, decide_eq_true_iff]

/-- A double is below zero if it has a mantissa and the negative sign. -/
theorem lt_zero_of_unpack (h : x.toModel.unpack = .finite s m e hm) :
    x < 0.0 ↔ s = .negative := by
  rw [lt_zero_iff_unpack, h]
  cases s with
  | positive => exact iff_of_false nofun nofun
  | negative => exact iff_of_true rfl rfl

/-- **A finite double is below zero if its rational number is.** -/
theorem lt_zero_iff (hfinite : isFinite x = true) : x < 0.0 ↔ exact x < 0 := by
  by_cases hx : (Dyadic.ofFloat x).mantissa = 0
  · obtain ⟨s, hunpack⟩ := unpack_of_mantissa_eq_zero hx
    rw [lt_zero_iff_unpack, hunpack, exact_of_mantissa_eq_zero hx]
    cases s with
    | positive => exact iff_of_false nofun (lt_irrefl 0)
    | negative => exact iff_of_false nofun (lt_irrefl 0)
  · obtain ⟨s, hm, hunpack⟩ := unpack_of_finite hfinite hx
    have hpositive : (0 : ℚ) < (Dyadic.ofFloat x).mantissa * 2 ^ (Dyadic.ofFloat x).exponent :=
      mul_pos (Nat.cast_pos.mpr hm) (zpow_pos (by decide) _)
    rw [lt_zero_of_unpack hunpack, exact_of_unpack hunpack]
    cases s with
    | positive => exact iff_of_false nofun (not_lt.mpr hpositive.le)
    | negative => exact iff_of_true rfl (neg_neg_of_pos hpositive)

/-! ### Negation -/

/-- The parts of a double with another sign. -/
theorem unpack_packComponents {b : BitVec Format.binary64.numBits}
    (h : unpack .binary64 b = .finite s m e hm) (s' : Sign) :
    unpack .binary64 (packComponents .binary64 s' (unpackExponent b) (unpackMantissa b)) =
      .finite s' m e hm := by
  rw [UnpackedFloat.unpack] at h ⊢
  simp only [unpackMantissa_packComponents, unpackExponent_packComponents,
    unpackSign_packComponents, Sign.ofBitVec_toBitVec] at h ⊢
  split at h
  · split at h <;> cases h
  · next hexponent =>
      rw [if_neg hexponent]
      split at h
      · next hsubnormal =>
          rw [if_pos hsubnormal]
          split at h
          · cases h
          · next hmantissa =>
              rw [dif_neg hmantissa]
              cases h
              rfl
      · next hnormal =>
          rw [if_neg hnormal]
          cases h
          rfl

/-- Negation changes the sign of a double and no other part of it. -/
theorem unpack_neg (h : x.toModel.unpack = .finite s m e hm) :
    (-x).toModel.unpack = .finite (-s) m e hm := by
  have hagain := unpack_packComponents h (-s)
  change unpack .binary64 (pack .binary64 x.toModel.unpack.neg) = _
  rw [h]
  change unpack .binary64 (pack .binary64 (.finite (-s) m e hm)) = _
  rw [← hagain, pack_unpack, if_neg]
  -- a NaN would not have unpacked to anything with a mantissa
  intro hnan
  obtain ⟨hexponent, hmantissa⟩ := of_decide_eq_true hnan
  rw [UnpackedFloat.unpack] at hagain
  dsimp only at hagain
  rw [if_pos hexponent, if_neg hmantissa] at hagain
  cases hagain

/-- **Negation is exact**: a double below zero turns into one that is worth the opposite. -/
theorem exact_neg (hfinite : isFinite x = true) (hx : exact x < 0) :
    isFinite (-x) = true ∧ exact (-x) = -exact x := by
  have hmantissa : (Dyadic.ofFloat x).mantissa ≠ 0 := fun hzero =>
    hx.ne (exact_of_mantissa_eq_zero hzero)
  obtain ⟨s, hm, hunpack⟩ := unpack_of_finite hfinite hmantissa
  have hneg := unpack_neg hunpack
  refine ⟨isFinite_of_unpack hneg, ?_⟩
  rw [exact_of_unpack hneg, exact_of_unpack hunpack]
  cases s with
  | positive => rfl
  | negative => exact (neg_neg _).symm

end WidgetFlow.Decimal
