import Mathlib
import WidgetFlow.Decimal.Binary

/-!
# Counts as doubles

A count below `2 ^ 53` is a double without rounding: its mantissa is shifted until it has all of its
53 bits, and the zeros behind it are never rounded away. So a comparison of doubles with a count is
a comparison with the count itself. From `2 ^ 53` on this fails, since a count may be rounded up.

## Main results

* `unpack_ofNat`: the parts of the double that a count is.
* `unpack_of_finite`: the parts of any finite double are those that are read off its bits.
* `toIndex_le_of_not_lt`: a double that is not above a count is an index up to the count.
-/

namespace WidgetFlow.Decimal

open Float.Model Float.Model.UnpackedFloat

/-! ### Rounding what is exact -/

/-- Zero bits that are shifted out leave no trace. -/
theorem shiftRight_of_zeros (m n : Nat) :
    (⟨m * 2 ^ n, false, false⟩ : ExtendedMantissa) >>> n = ⟨m, false, false⟩ := by
  change n.repeat ExtendedMantissa.shiftRightOne ⟨m * 2 ^ n, false, false⟩ = _
  induction n generalizing m with
  | zero => rw [Nat.pow_zero, Nat.mul_one]; rfl
  | succ n ih =>
      rw [Nat.repeat, Nat.pow_succ, Nat.mul_comm (2 ^ n), ← Nat.mul_assoc, ih]
      simp [ExtendedMantissa.shiftRightOne]

/-- A mantissa of all the 53 bits that a double has for it. -/
def Full (m : Nat) : Prop := 2 ^ 52 ≤ m ∧ m < 2 ^ 53

variable {m : Nat} {e : Int}

/-- A full mantissa is not zero. -/
theorem Full.pos (hm : Full m) : 0 < m := Nat.lt_of_lt_of_le (by decide) hm.1

/-- The highest bit of a full mantissa with zeros behind it. -/
theorem Full.log2 (hm : Full m) (n : Nat) : (m * 2 ^ n).log2 = 52 + n := by
  have hpow := Nat.two_pow_pos n
  rw [Nat.log2_eq_iff (Nat.mul_pos hm.pos hpow).ne', Nat.pow_add, Nat.add_right_comm, Nat.pow_add]
  exact ⟨Nat.mul_le_mul_right _ hm.1, Nat.mul_lt_mul_of_pos_right hm.2 hpow⟩

/-- A full mantissa loses the zeros behind it when it is shifted to the place of a double. -/
theorem Full.shift (hm : Full m) (he : -1074 ≤ e) (n : Nat) :
    shiftToTargetExponent .binary64 (m * 2 ^ n) (e - n) .exact = (⟨m, false, false⟩, e) := by
  have htarget : Format.binary64.targetExponent (totalExponent (m * 2 ^ n) (e - n)) = e := by
    simp only [Format.targetExponent, totalExponent, hm.log2, Format.mantissaBits,
      Format.minExponent]
    norm_num
    omega
  rw [shiftToTargetExponent, htarget, shiftToExponent, show (e - (e - n)).toNat = n by omega,
    ExtendedMantissa.ofMantissaAndAccuracy, shiftRight_of_zeros, Int.sub_add_cancel]

/-- A full mantissa with zeros behind it is rounded to itself. -/
theorem Full.round (hm : Full m) (he : -1074 ≤ e) (s : Sign) (n : Nat) :
    roundWithAccuracy .binary64 s (m * 2 ^ n) (e - n) .exact = .finite s m e hm.pos := by
  have hagain := hm.shift he 0
  rw [Nat.pow_zero, Nat.mul_one, Int.natCast_zero, Int.sub_zero] at hagain
  rw [roundWithAccuracy, hm.shift he]
  dsimp only
  rw [show ExtendedMantissa.roundedMantissa ⟨m, false, false⟩ = m from rfl, hagain]
  exact dif_neg hm.pos.ne'

/-! ### Packing -/

/-- The mantissa of a normal double with its hidden bit. -/
theorem toNat_one_append (v : BitVec 52) : (1#1 ++ v).toNat = 2 ^ 52 + v.toNat := by
  rw [BitVec.toNat_append, ← Nat.shiftLeft_add_eq_or_of_lt v.isLt]
  rfl

/-- Unpacking gives back the double that was packed, if its mantissa is full. -/
theorem Full.unpack_pack (hm : Full m) (he : -1074 ≤ e) (he' : e ≤ 971) (s : Sign) :
    unpack .binary64 (pack .binary64 (.finite s m e hm.pos)) = .finite s m e hm.pos := by
  obtain ⟨biased, hbiased⟩ : ∃ biased : Nat, (biased : Int) = e + 1075 :=
    ⟨(e + 1075).toNat, Int.toNat_of_nonneg (by omega)⟩
  have hlog : m.log2 = 52 := by simpa using hm.log2 0
  have hpack : pack .binary64 (.finite s m e hm.pos) =
      packComponents .binary64 s (BitVec.ofNat 11 biased) (BitVec.ofNat 52 m) := by
    have hfield : (e + (1023 : Nat) + (52 : Nat)).toNat = biased := by omega
    have hbias : Format.binary64.exponentBias = 1023 := rfl
    rw [UnpackedFloat.pack, hlog, hbias, hfield]
    dsimp only
    rw [if_neg (by omega)]
    exact if_pos rfl
  have hexponent : (BitVec.ofNat 11 biased).toNat = biased := by
    rw [BitVec.toNat_ofNat, Nat.mod_eq_of_lt (by omega)]
  have hmantissa : (1#1 ++ BitVec.ofNat 52 m).toNat = m := by
    rw [toNat_one_append, BitVec.toNat_ofNat]
    have := hm.1
    have := hm.2
    omega
  have hinfinite : BitVec.ofNat 11 biased ≠ -1#11 := fun h => by
    have h := congrArg BitVec.toNat h
    rw [hexponent] at h
    have : (-1#11).toNat = 2047 := by decide
    omega
  have hsubnormal : BitVec.ofNat 11 biased ≠ 0#11 := fun h => by
    have h := congrArg BitVec.toNat h
    rw [hexponent] at h
    have : (0#11).toNat = 0 := by decide
    omega
  have hbias : ((Format.binary64.exponentBias : Int) + (52 : Nat)) = 1075 := rfl
  rw [hpack, UnpackedFloat.unpack]
  simp only [unpackMantissa_packComponents, unpackExponent_packComponents]
  rw [if_neg hinfinite, if_neg hsubnormal]
  simp only [unpackSign_packComponents, Sign.ofBitVec_toBitVec, hexponent, hmantissa, hbias]
  congr 1
  omega

/-! ### Counts -/

variable {n : Nat}

/-- A count is shifted to a full mantissa. -/
theorem full_count (hn : n ≠ 0) (hlt : n < 2 ^ 53) : Full (n * 2 ^ (52 - n.log2)) := by
  have hlog : n.log2 ≤ 52 := Nat.le_of_lt_succ ((Nat.log2_lt hn).mpr hlt)
  have hpow : 2 ^ n.log2 * 2 ^ (52 - n.log2) = 2 ^ 52 := by rw [← Nat.pow_add]; congr 1; omega
  have hpow' : 2 ^ (n.log2 + 1) * 2 ^ (52 - n.log2) = 2 ^ 53 := by
    rw [← Nat.pow_add]; congr 1; omega
  refine ⟨?_, ?_⟩
  · rw [← hpow]
    exact Nat.mul_le_mul_right _ (Nat.log2_self_le hn)
  · rw [← hpow']
    exact Nat.mul_lt_mul_of_pos_right Nat.lt_log2_self (Nat.two_pow_pos _)

/-- The parts of the double that a count is. -/
def unpackedCount (n : Nat) (hn : n ≠ 0) (hlt : n < 2 ^ 53) : UnpackedFloat :=
  .finite .positive (n * 2 ^ (52 - n.log2)) (n.log2 - 52) (full_count hn hlt).pos

variable (hn : n ≠ 0) (hlt : n < 2 ^ 53)

include hn hlt in
/-- The highest bit of a count. -/
theorem log2_le : n.log2 ≤ 52 := Nat.le_of_lt_succ ((Nat.log2_lt hn).mpr hlt)

/-- A count is converted without rounding. -/
theorem unpackedFloat_ofNat : UnpackedFloat.ofNat .binary64 n = unpackedCount n hn hlt := by
  have hlog := log2_le hn hlt
  have hpositive : compare (n : Int) 0 = .gt := by
    rw [Int.compare_eq_gt]
    omega
  have htarget : Format.binary64.targetExponent (totalExponent n 0) = n.log2 - 52 := by
    simp only [Format.targetExponent, totalExponent, Format.mantissaBits, Format.minExponent]
    norm_num
    omega
  have hshift : ((0 : Int) - (n.log2 - 52)).toNat = 52 - n.log2 := by omega
  have hexponent : (0 : Int) - (52 - n.log2 : Nat) = n.log2 - 52 := by omega
  rw [UnpackedFloat.ofNat, UnpackedFloat.ofInt, UnpackedFloat.normalize, hpositive]
  dsimp only
  rw [Int.toNat_natCast, UnpackedFloat.round, htarget, decreaseExponent, Nat.shiftLeft_eq]
  dsimp only
  rw [hshift, hexponent]
  have hround := (full_count hn hlt).round (e := n.log2 - 52) (by omega) .positive 0
  rwa [Nat.pow_zero, Nat.mul_one, Int.natCast_zero, Int.sub_zero] at hround

/-- A packed count is unpacked again. -/
theorem unpack_pack_count :
    UnpackedFloat.unpack .binary64 (UnpackedFloat.pack .binary64 (unpackedCount n hn hlt)) =
      unpackedCount n hn hlt := by
  have hlog := log2_le hn hlt
  exact (full_count hn hlt).unpack_pack (by omega) (by omega) .positive

/-- A count times one is the count. -/
theorem mul_one_count (h1 : 0 < 2 ^ 52) :
    UnpackedFloat.mul .binary64 (unpackedCount n hn hlt) (.finite .positive (2 ^ 52) (-52) h1) =
      unpackedCount n hn hlt :=
  (full_count hn hlt).round (by omega) .positive 52

/-- A count below 2 ^ 53 is a double. -/
theorem unpack_ofNat : (Float.ofNat n).toModel.unpack = unpackedCount n hn hlt := by
  have hfast : Float.ofNat n = n.toUInt64.toFloat * Float.ofBits 0x3FF0000000000000 :=
    dif_pos ⟨hlt, by decide⟩
  have hword : n.toUInt64.toNat = n := Nat.mod_eq_of_lt (by omega)
  have hcount : n.toUInt64.toFloat.toModel.unpack = unpackedCount n hn hlt := by
    change UnpackedFloat.unpack .binary64
      (UnpackedFloat.pack .binary64 (UnpackedFloat.ofNat .binary64 n.toUInt64.toNat)) = _
    rw [hword, unpackedFloat_ofNat hn hlt, unpack_pack_count]
  have hone : (Float.ofBits 0x3FF0000000000000).toModel.unpack =
      .finite .positive (2 ^ 52) (-52) (by decide) := by rfl
  rw [hfast]
  change UnpackedFloat.unpack .binary64 (UnpackedFloat.pack .binary64
    (UnpackedFloat.mul .binary64 n.toUInt64.toFloat.toModel.unpack
      (Float.ofBits 0x3FF0000000000000).toModel.unpack)) = _
  rw [hcount, hone, mul_one_count, unpack_pack_count]

/-! ### Reading a double off its bits -/

variable {x : Float}

/-- The mantissa field of a double. -/
theorem toNat_unpackMantissa (x : Float) :
    (@unpackMantissa .binary64 x.toModel.toBits.toBitVec).toNat =
      x.toBits.toNat % 2 ^ 52 := by
  rw [unpackMantissa, BitVec.toNat_cast, BitVec.extractLsb_toNat]
  rfl

/-- The exponent field of a double. -/
theorem toNat_unpackExponent (x : Float) :
    (@unpackExponent .binary64 x.toModel.toBits.toBitVec).toNat = exponentField x := by
  rw [unpackExponent, BitVec.toNat_cast, BitVec.extractLsb_toNat, Nat.shiftRight_eq_div_pow]
  rfl

/-- A double that is not below zero has no negative sign, unless it is zero. -/
theorem sign_of_nonneg (hnonneg : 0.0 ≤ x) {s : Sign} {h : 0 < m}
    (hx : x.toModel.unpack = .finite s m e h) : s = .positive := by
  have hle : ((0.0 : Float).toModel.unpack.compare x.toModel.unpack).any (·.isLE) = true :=
    of_decide_eq_true hnonneg
  rw [show (0.0 : Float).toModel.unpack = .zero .positive by rfl, hx] at hle
  cases s with
  | positive => rfl
  | negative => exact nomatch hle

/-- Doubles of equal parts are equal. -/
theorem finite_congr {s : Sign} {m' : Nat} {e' : Int} (h : 0 < m) (hm : m = m') (he : e = e') :
    ∃ h', UnpackedFloat.finite s m e h = .finite s m' e' h' := by
  subst hm he
  exact ⟨h, rfl⟩

/-- A finite double is unpacked to what is read off its bits. -/
theorem unpack_of_finite (hfinite : isFinite x = true) (hx : (Dyadic.ofFloat x).mantissa ≠ 0) :
    ∃ s h, x.toModel.unpack =
      .finite s (Dyadic.ofFloat x).mantissa (Dyadic.ofFloat x).exponent h := by
  have hmantissa := toNat_unpackMantissa x
  have hexponent := toNat_unpackExponent x
  have hfield : exponentField x ≠ 2047 := by simpa [isFinite] using hfinite
  have hinfinite : @unpackExponent .binary64 x.toModel.toBits.toBitVec ≠ -1#11 :=
    fun h => hfield (hexponent.symm.trans (congrArg BitVec.toNat h))
  rw [Dyadic.ofFloat] at hx ⊢
  rw [Float.Model.unpack, UnpackedFloat.unpack]
  dsimp only
  rw [if_neg hinfinite]
  by_cases hsubnormal : exponentField x = 0
  · have hzero : @unpackExponent .binary64 x.toModel.toBits.toBitVec = 0#11 :=
      BitVec.eq_of_toNat_eq (hexponent.trans hsubnormal)
    rw [if_pos hsubnormal] at hx ⊢
    have hne : @unpackMantissa .binary64 x.toModel.toBits.toBitVec ≠ 0#52 :=
      fun h => hx (hmantissa.symm.trans (congrArg BitVec.toNat h))
    rw [if_pos hzero, dif_neg hne]
    refine ⟨_, finite_congr _ hmantissa ?_⟩
    rw [hexponent, hsubnormal]
    rfl
  · have hnormal : @unpackExponent .binary64 x.toModel.toBits.toBitVec ≠ 0#11 :=
      fun h => hsubnormal (hexponent.symm.trans (congrArg BitVec.toNat h))
    rw [if_neg hsubnormal, if_neg hnormal]
    refine ⟨_, finite_congr _ ?_ ?_⟩
    · rw [toNat_one_append, hmantissa]
    · rw [hexponent]
      rfl

/-! ### Indices -/

/-- A mantissa has at most 53 bits. -/
theorem mantissa_lt (x : Float) : (Dyadic.ofFloat x).mantissa < 2 ^ 53 := by
  have := Nat.mod_lt x.toBits.toNat (Nat.two_pow_pos 52)
  rw [Dyadic.ofFloat]
  split
  · dsimp only
    omega
  · dsimp only
    omega

/-- A finite double is no NaN. -/
theorem isNaN_of_isFinite (hfinite : isFinite x = true) : isNaN x = false := by
  rw [isFinite, bne_iff_ne] at hfinite
  rw [isNaN, beq_false_of_ne hfinite, Bool.false_and]

/-- The index that a double stands for is at most its whole part. -/
theorem toIndex_le (hfinite : isFinite x = true) : toIndex x ≤ (Dyadic.ofFloat x).wholePart := by
  rw [toIndex, clampTruncate, isNaN_of_isFinite hfinite, hfinite, truncate]
  simp only [Bool.false_eq_true, if_false, Bool.not_true]
  split <;> omega

/-- The whole part of a mantissa that is not shifted to the left. -/
theorem wholePart_of_nonpos {d : Dyadic} (h : d.exponent ≤ 0) :
    d.wholePart = d.mantissa / 2 ^ (-d.exponent).toNat := by
  rw [Dyadic.wholePart]
  split
  · have hzero : d.exponent = 0 := by omega
    rw [hzero, Int.neg_zero, Int.toNat_zero, Nat.pow_zero, Nat.mul_one, Nat.div_one]
  · rfl

/-- Of two doubles that are not in order, the second has the smaller exponent, or the same one and
no greater mantissa. -/
theorem of_not_lt {m' : Nat} {e' : Int} {h : 0 < m} {h' : 0 < m'}
    (hnot : ¬ (UnpackedFloat.finite .positive m e h).lt (.finite .positive m' e' h') = true) :
    e' < e ∨ e' = e ∧ m' ≤ m := by
  by_contra hcontra
  refine hnot ?_
  have hlt : (compare e e').then (compare m m') = .lt := by
    rcases lt_trichotomy e e' with hlt | rfl | hgt
    · rw [compare_lt_iff_lt.mpr hlt]
      rfl
    · rw [compare_eq_iff_eq.mpr rfl]
      exact compare_lt_iff_lt.mpr (by omega)
    · exact absurd (.inl hgt) hcontra
  rw [UnpackedFloat.lt, UnpackedFloat.compare, hlt]
  rfl

/-- **A double that is not above a count is an index up to it.** -/
theorem toIndex_le_of_not_lt (hn : n ≠ 0) (hlt : n < 2 ^ 53) (hfinite : isFinite x = true)
    (hnonneg : 0.0 ≤ x) (hnot : ¬ Float.ofNat n < x) : toIndex x ≤ n := by
  refine (toIndex_le hfinite).trans ?_
  by_cases hx : (Dyadic.ofFloat x).mantissa = 0
  · rw [Dyadic.wholePart, hx, Nat.zero_mul, Nat.zero_div, ite_self]
    exact Nat.zero_le n
  have hlog := log2_le hn hlt
  have hmantissa := mantissa_lt x
  obtain ⟨s, h, hunpack⟩ := unpack_of_finite hfinite hx
  obtain rfl := sign_of_nonneg hnonneg hunpack
  have hcompare : ¬ (unpackedCount n hn hlt).lt x.toModel.unpack = true := fun hcompare => by
    refine hnot ?_
    change decide ((Float.ofNat n).toModel.unpack.lt x.toModel.unpack = true) = true
    rw [unpack_ofNat hn hlt]
    exact decide_eq_true hcompare
  rw [hunpack] at hcompare
  have horder := of_not_lt hcompare
  rw [wholePart_of_nonpos (by omega)]
  rcases horder with hlow | ⟨hsame, hle⟩
  · -- the highest bit of the double stands below that of the count
    refine Nat.div_le_of_le_mul (hmantissa.le.trans ?_)
    calc 2 ^ 53 = 2 ^ (53 - n.log2) * 2 ^ n.log2 := by rw [← Nat.pow_add]; congr 1; omega
      _ ≤ 2 ^ (-(Dyadic.ofFloat x).exponent).toNat * n :=
        Nat.mul_le_mul (Nat.pow_le_pow_right (by decide) (by omega)) (Nat.log2_self_le hn)
  · refine Nat.div_le_of_le_mul (hle.trans ?_)
    rw [hsame, show (-((n.log2 : Int) - 52)).toNat = 52 - n.log2 by omega, Nat.mul_comm]

end WidgetFlow.Decimal
