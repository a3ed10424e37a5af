import WidgetFlow.Decimal.Shortest

/-!
# Reading decimals

Reading a double from a text: an optional sign, then digits with an optional point and exponent,
or the name of an infinity or of NaN in any case. The result is the double nearest to the decimal.
-/

namespace WidgetFlow.Decimal

/-- The number that a list of decimal digits spells. -/
def ofDigitChars (cs : List Char) : Nat := cs.foldl (fun n c => 10 * n + (c.toNat - 48)) 0

/-- The double nearest to `n · 10 ^ scale`. Decimals too large for a double give infinity, and
ones far below the least double give 0, before any power of ten is formed. -/
def nearest (n : Nat) (scale : Int) : Float :=
  if n = 0 then 0.0
  else
    let top := scale + digitCount n
    if 310 < top then 1.0 / 0.0
    else if top < -330 then 0.0
    else Float.ofScientific n (scale < 0) scale.natAbs

/-- Splits a text into the decimal digits at its start and the rest. -/
def takeDigits (cs : List Char) : List Char × List Char := cs.span Char.isDigit

/-- A signed exponent behind its mark: its value, if digits and nothing else follow the sign. -/
def readExponent (cs : List Char) : Option Int :=
  let (negative, cs) := match cs with
    | '-' :: rest => (true, rest)
    | '+' :: rest => (false, rest)
    | _ => (false, cs)
  let (digits, rest) := takeDigits cs
  if digits.isEmpty || !rest.isEmpty then none
  else
    let n := (ofDigitChars digits : Int)
    some (if negative then -n else n)

/-- The magnitude that a text without a sign spells. -/
def readMagnitude (cs : List Char) : Option Float :=
  let word := String.ofList (cs.map Char.toLower)
  if word = "inf" || word = "infinity" then some (1.0 / 0.0)
  else if word = "nan" then some (0.0 / 0.0)
  else
    let (whole, rest) := takeDigits cs
    let (fraction, rest) := match rest with
      | '.' :: tail => takeDigits tail
      | _ => ([], rest)
    if whole.isEmpty && fraction.isEmpty then none
    else
      let exponent := match rest with
        | [] => some 0
        | c :: tail => if c = 'e' || c = 'E' then readExponent tail else none
      exponent.map fun e => nearest (ofDigitChars (whole ++ fraction)) (e - fraction.length)

/-- The double that a text spells, if it spells one. -/
def readFloat (s : String) : Option Float :=
  match s.toList with
  | '-' :: rest => (readMagnitude rest).map fun x => -x
  | '+' :: rest => readMagnitude rest
  | cs => readMagnitude cs

/-- The whole number of 64 bits that a text spells: digits, perhaps behind a plus sign. -/
def word? (s : String) : Option Nat :=
  let digits := match s.toList with
    | '+' :: cs => cs
    | cs => cs
  if !digits.isEmpty && digits.all Char.isDigit then
    some (ofDigitChars digits) |>.filter (· < 2 ^ 64)
  else none

/-- The whole number that a text spells: an optional sign and digits. -/
def readInt (s : String) : Option Int :=
  let digits (cs : List Char) : Option Int :=
    if cs.isEmpty || !cs.all Char.isDigit then none else some (ofDigitChars cs)
  match s.toList with
  | '-' :: rest => (digits rest).map fun n => -n
  | '+' :: rest => digits rest
  | cs => digits cs

end WidgetFlow.Decimal
