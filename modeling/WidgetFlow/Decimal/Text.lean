import WidgetFlow.Decimal.Shortest

/-!
# Decimals as text

Positional and scientific notation of a decimal, and the notation with a fixed number of places.
-/

namespace WidgetFlow.Decimal

/-- A decimal written without an exponent, with at least `places` digits behind the point. -/
def positional (d : Digits) (places : Nat) : String :=
  let whole := if d.exponent < 0 then ['0']
    else (d.digits ++ List.replicate (d.exponent.toNat + 1 - d.digits.length) '0').take
      (d.exponent.toNat + 1)
  let fraction := if d.exponent < 0 then List.replicate ((-d.exponent).toNat - 1) '0' ++ d.digits
    else d.digits.drop (d.exponent.toNat + 1)
  let fraction := fraction ++ List.replicate (places - fraction.length) '0'
  String.ofList (if fraction.isEmpty then whole else whole ++ '.' :: fraction)

/-- A decimal written with one digit before the point and a signed exponent. -/
def scientific (d : Digits) : String :=
  let mantissa := match d.digits with
    | [] => ['0']
    | [c] => [c]
    | c :: rest => c :: '.' :: rest
  let sign := if d.exponent < 0 then '-' else '+'
  String.ofList (mantissa ++ 'e' :: sign :: digitChars d.exponent.natAbs)

/-- How a double is written: which exponents of the first digit are written positionally, and how
many digits then follow the point at least. -/
structure NumberForm where
  least : Int
  most : Int
  places : Nat

/-- A finite double in a given form, by its shortest digits; the sign of zero is kept. -/
def NumberForm.write (form : NumberForm) (x : Float) : String :=
  let d := shortest x
  let body := if form.least ≤ d.exponent && d.exponent ≤ form.most then positional d form.places
    else scientific d
  if isNegative x then "-" ++ body else body

/-- Any double by its shortest digits and without an exponent. -/
def plain (x : Float) : String :=
  if isNaN x then "NaN"
  else if !isFinite x then if isNegative x then "-inf" else "inf"
  else (if isNegative x then "-" else "") ++ positional (shortest x) 0

/-- The quotient of two numbers rounded to the nearest whole number, a tie to the even one. -/
def roundHalfEven (num den : Nat) : Nat :=
  let q := num / den
  let rest := num % den
  if 2 * rest < den || (2 * rest = den && q % 2 = 0) then q else q + 1

/-- A double with `places` digits behind the point: its exact value rounded to the nearest such
decimal, a tie to the even digit. -/
def fixed (x : Float) (places : Nat) : String :=
  if isNaN x then "NaN"
  else if !isFinite x then if isNegative x then "-inf" else "inf"
  else
    let d := Dyadic.ofFloat x
    let scaled := roundHalfEven (d.mantissa * 2 ^ d.exponent.toNat * 10 ^ places)
      (2 ^ (-d.exponent).toNat)
    let digits := digitChars scaled
    let digits := List.replicate (places + 1 - digits.length) '0' ++ digits
    let whole := digits.take (digits.length - places)
    let fraction := digits.drop (digits.length - places)
    let body := if places = 0 then whole else whole ++ '.' :: fraction
    String.ofList (if d.negative then '-' :: body else body)

end WidgetFlow.Decimal
