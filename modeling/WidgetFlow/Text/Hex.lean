import WidgetFlow.Text.Parser

/-!
# Hexadecimal digits

Characters spelled by their code points: a fixed number of hexadecimal digits, in either case of
letters.
-/

namespace WidgetFlow.Text

/-- The value of a hexadecimal digit. -/
def hexDigit? (c : Char) : Option Nat :=
  if '0' ≤ c && c ≤ '9' then some (c.toNat - 48)
  else if 'a' ≤ c && c ≤ 'f' then some (c.toNat - 87)
  else if 'A' ≤ c && c ≤ 'F' then some (c.toNat - 55)
  else none

/-- The number that hexadecimal digits spell, the highest one first. -/
def ofHexDigits (digits : List Nat) : Nat := digits.foldl (fun n d => n * 16 + d) 0

/-- A number of exactly so many hexadecimal digits. -/
def hexNumber (count : Nat) : Parser Nat := fun cs =>
  let digits := (cs.take count).filterMap hexDigit?
  if digits.length = count then some (ofHexDigits digits, cs.drop count) else none

/-- A character spelled by so many hexadecimal digits. -/
def hexChar (count : Nat) : Parser Char :=
  Parser.filterMap (fun n => if n.isValidChar then some (Char.ofNat n) else none) (hexNumber count)

end WidgetFlow.Text
