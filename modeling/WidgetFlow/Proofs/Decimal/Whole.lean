import WidgetFlow.Proofs.Decimal.Count

/-!
# Whole numbers as doubles

A whole number of at most `2 ^ 53` in magnitude becomes a double and comes back as it was. Between
the bounds the double has the parts of the count, with a sign; at the bounds, which are powers of
two, it is computed.

## Main results

* `ofFloat_of_unpack`: the exact value of a double whose parts are known.
* `toWord_ofInt`: whole numbers up to `2 ^ 53` in magnitude pass through doubles.
-/

namespace WidgetFlow.Decimal

open Float.Model Float.Model.UnpackedFloat

variable {x : Float} {s : Sign} {m : Nat} {e : Int} {hm : 0 < m}

/-! ### The exact value of a double -/

/-- The sign field of a double. -/
theorem toNat_unpackSign (x : Float) :
    (@unpackSign .binary64 x.toModel.toBits.toBitVec).toNat = x.toBits.toNat / 2 ^ 63 := by
  have hword : x.toBits.toNat < 2 ^ 64 := x.toBits.toBitVec.isLt
  rw [unpackSign, BitVec.toNat_cast, BitVec.extractLsb_toNat, Nat.shiftRight_eq_div_pow]
  change x.toBits.toNat / 2 ^ 63 % 2 = _
  omega

/-- A double is negative if its sign field says so. -/
theorem isNegative_iff (x : Float) : isNegative x = true ↔
    Sign.ofBitVec (@unpackSign .binary64 x.toModel.toBits.toBitVec) = .negative := by
  have hfield := toNat_unpackSign x
  rw [isNegative, beq_iff_eq, ← hfield]
  unfold Sign.ofBitVec
  split
  · next h => exact iff_of_false (by rw [h]; decide) nofun
  · next h =>
      have hne : (@unpackSign .binary64 x.toModel.toBits.toBitVec).toNat ≠ 0 :=
        fun hzero => h (BitVec.eq_of_toNat_eq hzero)
      have hlt := (@unpackSign .binary64 x.toModel.toBits.toBitVec).isLt
      exact iff_of_true (by omega) rfl

/-- A double that has a mantissa is finite. -/
theorem isFinite_of_unpack (h : x.toModel.unpack = .finite s m e hm) : isFinite x = true := by
  rw [isFinite, bne_iff_ne, ← toNat_unpackExponent]
  intro hfield
  have hinfinite : @unpackExponent .binary64 x.toModel.toBits.toBitVec = -1#11 :=
    BitVec.eq_of_toNat_eq hfield
  rw [Float.Model.unpack, UnpackedFloat.unpack] at h
  dsimp only at h
  rw [if_pos hinfinite] at h
  split at h <;> cases h

/-- A double that has a mantissa is not zero. -/
theorem mantissa_ne_zero_of_unpack (h : x.toModel.unpack = .finite s m e hm) :
    (Dyadic.ofFloat x).mantissa ≠ 0 := by
  rw [Dyadic.ofFloat]
  split
  · next hfield =>
      intro hzero
      have hexponent : @unpackExponent .binary64 x.toModel.toBits.toBitVec = 0#11 :=
        BitVec.eq_of_toNat_eq ((toNat_unpackExponent x).trans hfield)
      have hmantissa : @unpackMantissa .binary64 x.toModel.toBits.toBitVec = 0#52 :=
        BitVec.eq_of_toNat_eq ((toNat_unpackMantissa x).trans hzero)
      rw [Float.Model.unpack, UnpackedFloat.unpack] at h
      dsimp only at h
      rw [hexponent, if_neg (by decide), if_pos rfl, dif_pos hmantissa] at h
      cases h
  · dsimp only
    omega

/-- The sign of a double that has a mantissa. -/
theorem sign_of_unpack (h : x.toModel.unpack = .finite s m e hm) :
    Sign.ofBitVec (@unpackSign .binary64 x.toModel.toBits.toBitVec) = s := by
  rw [Float.Model.unpack, UnpackedFloat.unpack] at h
  dsimp only at h
  split at h
  · split at h <;> cases h
  · split at h
    · split at h
      · cases h
      · exact (UnpackedFloat.finite.inj h).1
    · exact (UnpackedFloat.finite.inj h).1

/-- **The exact value of a double** whose parts are known. -/
theorem ofFloat_of_unpack (h : x.toModel.unpack = .finite s m e hm) :
    ((Dyadic.ofFloat x).negative = true ↔ s = .negative) ∧ (Dyadic.ofFloat x).mantissa = m ∧
      (Dyadic.ofFloat x).exponent = e := by
  obtain ⟨s', hm', hparts⟩ := unpack_of_finite (isFinite_of_unpack h) (mantissa_ne_zero_of_unpack h)
  obtain ⟨-, hmantissa, hexponent⟩ := UnpackedFloat.finite.inj (hparts.symm.trans h)
  have hnegative : (Dyadic.ofFloat x).negative = isNegative x := by
    rw [Dyadic.ofFloat]
    split <;> rfl
  rw [hnegative, isNegative_iff, sign_of_unpack h]
  exact ⟨Iff.rfl, hmantissa, hexponent⟩

/-! ### Whole numbers -/

variable {n : Nat}

/-- The whole part of a double that has the parts of a count is the count. -/
theorem wholePart_count (hn : n ≠ 0) (hlt : n < 2 ^ 53) {hm : 0 < n * 2 ^ (52 - n.log2)}
    (h : x.toModel.unpack = .finite s (n * 2 ^ (52 - n.log2)) (n.log2 - 52) hm) :
    (Dyadic.ofFloat x).wholePart = n := by
  have hlog := log2_le hn hlt
  obtain ⟨-, hmantissa, hexponent⟩ := ofFloat_of_unpack h
  rw [wholePart_of_nonpos (by omega), hmantissa, hexponent,
    show (-((n.log2 : Int) - 52)).toNat = 52 - n.log2 by omega,
    Nat.mul_div_cancel _ (Nat.two_pow_pos _)]

/-- A finite double is read as a word if its whole part is small. -/
theorem toWord_of_finite (hfinite : isFinite x = true) (hlow : -2 ^ 53 ≤ truncate x)
    (hhigh : truncate x ≤ 2 ^ 53) : toWord x = truncate x := by
  rw [toWord, clampTruncate, isNaN_of_isFinite hfinite, hfinite]
  simp only [Bool.false_eq_true, if_false, Bool.not_true]
  omega

/-- A count passes through doubles. -/
theorem toWord_ofNat (hn : n ≠ 0) (hlt : n < 2 ^ 53) :
    isFinite (Float.ofNat n) = true ∧ toWord (Float.ofNat n) = n := by
  have hunpack := unpack_ofNat hn hlt
  have hfinite := isFinite_of_unpack hunpack
  have hpositive : (Dyadic.ofFloat (Float.ofNat n)).negative = false :=
    Bool.eq_false_iff.mpr fun h => nomatch (ofFloat_of_unpack hunpack).1.mp h
  have htruncate : truncate (Float.ofNat n) = n := by
    rw [truncate, hpositive, wholePart_count hn hlt hunpack]
    rfl
  refine ⟨hfinite, ?_⟩
  rw [toWord_of_finite hfinite (by omega) (by omega), htruncate]

/-- The parts of a negated count. -/
theorem unpack_neg_ofNat (hn : n ≠ 0) (hlt : n < 2 ^ 53) :
    (Float.ofNat n).neg.toModel.unpack =
      .finite .negative (n * 2 ^ (52 - n.log2)) (n.log2 - 52) (full_count hn hlt).pos := by
  have hlog := log2_le hn hlt
  change UnpackedFloat.unpack .binary64
    (UnpackedFloat.pack .binary64 (Float.ofNat n).toModel.unpack.neg) = _
  rw [unpack_ofNat hn hlt]
  exact (full_count hn hlt).unpack_pack (by omega) (by omega) .negative

/-- A negated count passes through doubles. -/
theorem toWord_neg_ofNat (hn : n ≠ 0) (hlt : n < 2 ^ 53) :
    isFinite (Float.ofNat n).neg = true ∧ toWord (Float.ofNat n).neg = -n := by
  have hunpack := unpack_neg_ofNat hn hlt
  have hfinite := isFinite_of_unpack hunpack
  have hnegative : (Dyadic.ofFloat (Float.ofNat n).neg).negative = true :=
    (ofFloat_of_unpack hunpack).1.mpr rfl
  have htruncate : truncate (Float.ofNat n).neg = -n := by
    rw [truncate, hnegative, wholePart_count hn hlt hunpack]
    rfl
  refine ⟨hfinite, ?_⟩
  rw [toWord_of_finite hfinite (by omega) (by omega), htruncate]

/-- **Whole numbers up to `2 ^ 53` in magnitude pass through doubles.** -/
theorem toWord_ofInt {i : Int} (hlow : -2 ^ 53 ≤ i) (hhigh : i ≤ 2 ^ 53) :
    isFinite (Float.ofInt i) = true ∧ toWord (Float.ofInt i) = i := by
  -- zero has no mantissa, and the bounds are no counts
  by_cases hlower : i = -2 ^ 53
  · subst hlower
    decide +kernel
  by_cases hupper : i = 2 ^ 53
  · subst hupper
    decide +kernel
  cases i with
  | ofNat n =>
      rw [Int.ofNat_eq_natCast] at hhigh hupper
      by_cases hn : n = 0
      · subst hn
        decide +kernel
      · exact toWord_ofNat hn (by omega)
  | negSucc n =>
      rw [Int.negSucc_eq] at hlow hlower
      exact toWord_neg_ofNat (Nat.succ_ne_zero n) (by omega)

end WidgetFlow.Decimal
