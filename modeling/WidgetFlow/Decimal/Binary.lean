/-!
# Doubles as exact numbers

A finite double is a whole number times a power of two. This module reads that form off the bits
and answers every question about whole parts and remainders in exact arithmetic on it.
-/

namespace WidgetFlow

-- Powers and sums of numbers mean the same whatever algebra is in scope.
attribute [scoped instance (high)] instPowNat Zero.ofOfNat0
attribute [default_instance high + 1] instPowNat

end WidgetFlow

namespace WidgetFlow.Decimal

/-- The number `± mantissa · 2 ^ exponent`. -/
structure Dyadic where
  negative : Bool
  mantissa : Nat
  exponent : Int
deriving DecidableEq, Repr

/-- The eleven bits of the exponent field. -/
def exponentField (x : Float) : Nat := (x.toBits.toNat / 2 ^ 52) % 2 ^ 11

/-- Whether a double is neither infinite nor a NaN. -/
def isFinite (x : Float) : Bool := exponentField x != 2047

/-- Whether a double is a NaN. -/
def isNaN (x : Float) : Bool := exponentField x == 2047 && x.toBits.toNat % 2 ^ 52 != 0

/-- The sign bit of a double. -/
def isNegative (x : Float) : Bool := x.toBits.toNat / 2 ^ 63 == 1

/-- The exact value of a finite double. -/
def Dyadic.ofFloat (x : Float) : Dyadic :=
  let fraction := x.toBits.toNat % 2 ^ 52
  if exponentField x = 0 then ⟨isNegative x, fraction, -1074⟩
  else ⟨isNegative x, 2 ^ 52 + fraction, (exponentField x : Int) - 1075⟩

/-- The double of a given exact value. The value must be one that a double holds; the mantissa
may have any number of trailing zero bits. -/
def Dyadic.toFloat (d : Dyadic) : Float :=
  if d.mantissa = 0 then if d.negative then -0.0 else 0.0
  else
    -- the exponent at which the mantissa has 53 bits, or the least one of all
    let e := max (d.exponent + d.mantissa.log2 - 52) (-1074)
    let m := if e ≤ d.exponent then d.mantissa * 2 ^ (d.exponent - e).toNat
      else d.mantissa / 2 ^ (e - d.exponent).toNat
    let magnitude := if m < 2 ^ 52 then m else (e + 1075).toNat * 2 ^ 52 + (m - 2 ^ 52)
    Float.ofBits (UInt64.ofNat (if d.negative then 2 ^ 63 + magnitude else magnitude))

/-- The whole part of the magnitude. -/
def Dyadic.wholePart (d : Dyadic) : Nat :=
  if 0 ≤ d.exponent then d.mantissa * 2 ^ d.exponent.toNat
  else d.mantissa / 2 ^ (-d.exponent).toNat

/-- Whether the value is a whole number. -/
def Dyadic.isWhole (d : Dyadic) : Bool :=
  0 ≤ d.exponent || d.mantissa % 2 ^ (-d.exponent).toNat == 0

/-- A finite double rounded toward zero. -/
def truncate (x : Float) : Int :=
  let d := Dyadic.ofFloat x
  if d.negative then -d.wholePart else d.wholePart

/-- Whether a double is a whole number. -/
def isWhole (x : Float) : Bool := isFinite x && (Dyadic.ofFloat x).isWhole

/-- A finite double rounded down. -/
def floor (x : Float) : Int :=
  let d := Dyadic.ofFloat x
  if d.negative && !d.isWhole then -d.wholePart - 1 else truncate x

/-- A finite double rounded up. -/
def ceil (x : Float) : Int :=
  let d := Dyadic.ofFloat x
  if !d.negative && !d.isWhole then d.wholePart + 1 else truncate x

/-- A double rounded toward zero and clamped to the range from `lo` to `hi`; a NaN counts as 0. -/
def clampTruncate (lo hi : Int) (x : Float) : Int :=
  if isNaN x then 0
  else if !isFinite x then if isNegative x then lo else hi
  else max lo (min hi (truncate x))

/-- A double rounded toward zero into the signed words of 64 bits. -/
def toWord (x : Float) : Int := clampTruncate (-(2 ^ 63)) (2 ^ 63 - 1) x

/-- A double rounded toward zero into the unsigned words of 64 bits. -/
def toIndex (x : Float) : Nat := (clampTruncate 0 (2 ^ 64 - 1) x).toNat

/-- The remainder of a division that rounds toward zero. It is exact and has the sign of `a`. -/
def remainder (a b : Float) : Float :=
  if !isFinite a || isNaN b || b == 0 then 0.0 / 0.0
  else if !isFinite b then a
  else
    let x := Dyadic.ofFloat a
    let y := Dyadic.ofFloat b
    let e := min x.exponent y.exponent
    let rest := (x.mantissa * 2 ^ (x.exponent - e).toNat) %
      (y.mantissa * 2 ^ (y.exponent - e).toNat)
    Dyadic.toFloat ⟨x.negative, rest, e⟩

end WidgetFlow.Decimal
