import WidgetFlow.Value.Printer
import WidgetFlow.Decimal.Reader
import WidgetFlow.Text.Blank

/-!
# Coercion

How a value stands for a text, a number or a truth value, how results of arithmetic become values,
and the two equalities of the handler language.
-/

namespace WidgetFlow

/-- Whole doubles below this bound in magnitude are written as whole numbers: `2 ^ 53`. -/
def wholeBound : Int := 9007199254740992

/-- The whole number a double stands for, if it is one below the bound. -/
def wholeNumber? (x : Float) : Option Int :=
  if Decimal.isWhole x then
    let n := Decimal.truncate x
    if -wholeBound < n && n < wholeBound then some n else none
  else none

namespace Value

/-- A double as a value: a whole number below the bound loses its fraction, and a double that is
not finite is null. -/
def ofFloat (x : Float) : Value :=
  match wholeNumber? x with
  | some n => .num (.int n)
  | none => if Decimal.isFinite x then .num (.float x) else .null

mutual
/-- A value as text: null is empty, the items of a list are joined by commas, and a record is
written as JSON. -/
def toText : Value → String
  | .null => ""
  | .bool b => if b then "true" else "false"
  | .num n =>
    match wholeNumber? n.toFloat with
    | some k => toString k
    | none => n.toJson
  | .str s => s
  | .arr items => ",".intercalate (itemTexts items)
  | .obj fields => (Value.obj fields).toJson
/-- Every item as text. -/
def itemTexts : List Value → List String
  | [] => []
  | v :: rest => toText v :: itemTexts rest
end

/-- A value as a number: null counts as 0, a truth value as 0 or 1, a blank text as 0. A text that
spells no number, a list and a record are NaN. -/
def toNumber : Value → Float
  | .null => 0.0
  | .bool b => if b then 1.0 else 0.0
  | .num n => n.toFloat
  | .str s =>
    let trimmed := Text.trim s
    if trimmed.isEmpty then 0.0 else (Decimal.readFloat trimmed).getD (0.0 / 0.0)
  | .arr _ => 0.0 / 0.0
  | .obj _ => 0.0 / 0.0

/-- Whether a value counts as true: all but null, false, zero and the empty text. -/
def truthy : Value → Bool
  | .null => false
  | .bool b => b
  | .num n => n.toFloat != 0.0
  | .str s => !s.isEmpty
  | .arr _ => true
  | .obj _ => true

/-- Strict equality: numbers by their doubles, all else by structure. -/
def strictEq : Value → Value → Bool
  | .num a, .num b => a.toFloat == b.toFloat
  | a, b => a == b

/-- Loose equality: null equals null alone, a number is compared with a text or a truth value as
a number, and the rest is strict. -/
def looseEq : Value → Value → Bool
  | .null, .null => true
  | .null, _ => false
  | _, .null => false
  | .num a, .str b => toNumber (.num a) == toNumber (.str b)
  | .str a, .num b => toNumber (.str a) == toNumber (.num b)
  | .bool a, .num b => toNumber (.bool a) == toNumber (.num b)
  | .num a, .bool b => toNumber (.num a) == toNumber (.bool b)
  | a, b => strictEq a b

end Value

end WidgetFlow
