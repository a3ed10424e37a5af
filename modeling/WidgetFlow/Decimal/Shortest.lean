import WidgetFlow.Decimal.Binary

/-!
# Shortest decimals

The shortest decimal that reads back as a given double: of all decimals inside the interval of
numbers that round to the double, one with the fewest digits, and of those the one nearest to it,
a tie going to the even digit. The interval includes its ends exactly when the mantissa is even.

On the grid of decimals with `n` digits it is enough to test the two neighbours of the double: if
any point of the grid lies in the interval, one of them does. Seventeen digits always suffice.
-/

namespace WidgetFlow.Decimal

/-- The decimal `d₁.d₂d₃… · 10 ^ exponent`. -/
structure Digits where
  digits : List Char
  exponent : Int
deriving DecidableEq, Repr

/-- The decimal digits of a number. -/
def digitChars (n : Nat) : List Char := Nat.toDigits 10 n

/-- How many decimal digits a positive number has. -/
def digitCount (n : Nat) : Nat := (digitChars n).length

/-- The exponent of the first digit of the positive quotient `num / den`. -/
def leadingExponent (num den : Nat) : Int :=
  if den ≤ num then digitCount (num / den) - 1
  else -(digitCount ((den + num - 1) / num - 1) : Int)

/-- A number with its trailing decimal zeros cut off, as digits. -/
def trimZeros (digits : List Char) : List Char :=
  (digits.reverse.dropWhile (· = '0')).reverse

/-- The decimal `d · 10 ^ scale` for a positive `d`. -/
def Digits.ofScaled (d : Nat) (scale : Int) : Digits :=
  ⟨trimZeros (digitChars d), scale + digitCount d - 1⟩

/-- The interval of numbers that round to a double, and the double itself, as numerators over one
denominator. -/
structure Rounding where
  low : Nat
  value : Nat
  high : Nat
  denominator : Nat
  closed : Bool

/-- The rounding interval of a positive double. Below a power of two the neighbours lie half as
far apart as above it. -/
def Rounding.ofDyadic (d : Dyadic) : Rounding :=
  let up := 2 ^ (d.exponent - 2).toNat
  let down := 2 ^ (2 - d.exponent).toNat
  let gap := if d.mantissa = 2 ^ 52 ∧ -1074 < d.exponent then 1 else 2
  ⟨(4 * d.mantissa - gap) * up, 4 * d.mantissa * up, (4 * d.mantissa + 2) * up, down,
    d.mantissa % 2 = 0⟩

/-- The best decimal on the grid of multiples of `10 ^ scale`, if the interval holds one. -/
def Rounding.onGrid (r : Rounding) (scale : Int) : Option Nat :=
  -- all numbers are compared over the denominator `r.denominator · 10 ^ -scale`
  let unit := r.denominator * 10 ^ scale.toNat
  let factor := 10 ^ (-scale).toNat
  let value := r.value * factor
  let inside (k : Nat) : Bool :=
    let x := k * unit
    if r.closed then r.low * factor ≤ x && x ≤ r.high * factor
    else r.low * factor < x && x < r.high * factor
  let below := value / unit
  let rest := value % unit
  match inside below, inside (below + 1) with
  | true, true =>
    if 2 * rest < unit || (2 * rest = unit && below % 2 = 0) then some below
    else some (below + 1)
  | true, false => some below
  | false, true => some (below + 1)
  | false, false => none

/-- The best decimal with the fewest digits, tried from `n` digits on, for `tries` digit counts. -/
def Rounding.search (r : Rounding) (leading : Int) : Nat → Nat → Option Digits
  | 0, _ => none
  | tries + 1, n =>
    let scale := leading - n + 1
    match r.onGrid scale with
    | some d => some (Digits.ofScaled d scale)
    | none => r.search leading tries (n + 1)

/-- The shortest decimal that reads back as the magnitude of a finite double. -/
def shortest (x : Float) : Digits :=
  let d := Dyadic.ofFloat x
  if d.mantissa = 0 then ⟨['0'], 0⟩
  else
    let r := Rounding.ofDyadic d
    (r.search (leadingExponent r.value r.denominator) 17 1).getD ⟨['0'], 0⟩

end WidgetFlow.Decimal
