import WidgetFlow.Script.Budget
import WidgetFlow.Script.Path
import WidgetFlow.Script.Tree
import WidgetFlow.Text.Case
import WidgetFlow.Text.Search

/-!
# Operators and methods on values

The arithmetic and comparison of the handler language, the methods of texts, lists and numbers, and
the functions of `Math`. Results are values; a number that is not finite is null.
-/

namespace WidgetFlow.Script

/-! ## Operators -/

/-- Whether a value makes a sum a text. -/
def isTextual : Value → Bool
  | .str _ => true
  | .arr _ => true
  | .obj _ => true
  | _ => false

/-- The sum of two values: texts joined if one of them is textual, numbers added otherwise. -/
def add (a b : Value) : Value :=
  if isTextual a || isTextual b then .str (a.toText ++ b.toText)
  else .ofFloat (a.toNumber + b.toNumber)

/-- Whether two values are in a relation: two texts by their order, all else as numbers. -/
def related (texts : String → String → Bool) (numbers : Float → Float → Bool) (a b : Value) : Bool :=
  match a, b with
  | .str x, .str y => texts x y
  | _, _ => numbers a.toNumber b.toNumber

/-- The value of an operator with two values as operands. Conjunction and disjunction never come
here, since they do not always look at their second operand. -/
def binaryValue : BinaryOp → Value → Value → Value
  | .add, a, b => add a b
  | .sub, a, b => .ofFloat (a.toNumber - b.toNumber)
  | .mul, a, b => .ofFloat (a.toNumber * b.toNumber)
  | .div, a, b => .ofFloat (a.toNumber / b.toNumber)
  | .rem, a, b => .ofFloat (Decimal.remainder a.toNumber b.toNumber)
  | .eq, a, b => .bool (a.looseEq b)
  | .ne, a, b => .bool (!a.looseEq b)
  | .strictEq, a, b => .bool (a.strictEq b)
  | .strictNe, a, b => .bool (!a.strictEq b)
  | .lt, a, b => .bool (related (· < ·) (· < ·) a b)
  | .le, a, b => .bool (related (· ≤ ·) (· ≤ ·) a b)
  | .gt, a, b => .bool (related (· > ·) (· > ·) a b)
  | .ge, a, b => .bool (related (· ≥ ·) (· ≥ ·) a b)
  | .and, _, _ => .null
  | .or, _, _ => .null

/-- Whether two operands of which one is no value are the same. -/
def sameThing : Operand → Operand → Bool
  | .accessor, .accessor => true
  | .handle a, .handle b => a == b
  | .global a, .global b => a == b
  | _, _ => false

/-- The value of an operator. What is no value can only be compared for being the same. -/
def binary (op : BinaryOp) : Operand → Operand → Value
  | .value a, .value b => binaryValue op a b
  | a, b =>
    match op with
    | .eq => .bool (sameThing a b)
    | .strictEq => .bool (sameThing a b)
    | .ne => .bool (!sameThing a b)
    | .strictNe => .bool (!sameThing a b)
    | _ => .bool false

/-! ## Slices -/

/-- A bound of a slice as a position in a list of the given length: a negative one counts from the
end, and none reaches past either end. -/
def sliceBound (length default : Nat) : Option Value → Nat
  | none => default
  | some .null => default
  | some v =>
    let n := v.toNumber
    if Decimal.isNaN n then 0
    else if n < 0.0 then length - Decimal.toIndex (-n)
    else min (Decimal.toIndex n) length

/-- The start and the end of a slice; the end is never before the start. -/
def sliceBounds (length : Nat) (start stop : Option Value) : Nat × Nat :=
  let start := sliceBound length 0 start
  let stop := sliceBound length length stop
  (start, max stop start)

/-- The part of a list between two bounds. -/
def slice {α : Type} (items : List α) (start stop : Option Value) : List α :=
  let (start, stop) := sliceBounds items.length start stop
  (items.drop start).take (stop - start)

/-! ## Methods -/

/-- An argument as text; a missing one is empty. -/
def argText (args : List Value) (i : Nat) : String := ((args[i]?).map Value.toText).getD ""

/-- A position that was found, or -1. -/
def found : Option Nat → Value
  | some i => .ofNat i
  | none => .ofInt (-1)

/-- A method of a text. -/
def textMethod (s : String) (method : String) (args : List Value) : Except RunError Value :=
  let cs := s.toList
  match method with
  | "toUpperCase" => .ok (.str (Text.upper s))
  | "toLowerCase" => .ok (.str (Text.lower s))
  | "trim" => .ok (.str (Text.trim s))
  | "includes" => .ok (.bool (Text.indexOf? (argText args 0).toList cs).isSome)
  | "startsWith" => .ok (.bool ((argText args 0).toList.isPrefixOf cs))
  | "endsWith" => .ok (.bool ((argText args 0).toList.isSuffixOf cs))
  | "indexOf" => .ok (found (Text.indexOf? (argText args 0).toList cs))
  | "split" => .ok (.arr ((Text.split (argText args 0) s).map .str))
  | "slice" => .ok (.str (String.ofList (slice cs args[0]? args[1]?)))
  | "substring" => .ok (.str (String.ofList (slice cs args[0]? args[1]?)))
  | "concat" => .ok (.str (args.foldl (fun text v => text ++ v.toText) s))
  | "reverse" => .ok (.str (String.ofList cs.reverse))
  | "replace" => .ok (.str (Text.replaceFirst (argText args 0) (argText args 1) s))
  | "charAt" => .ok (indexValue (.value (.str s)) ((args[0]?).getD (.ofNat 0)))
  | _ => .error (.unknownMethod "string" method)

/-- What a list becomes when it is joined, unless that is beyond the size budget. -/
def join (separator : String) (items : List Value) : Except RunError Value :=
  let parts := items.map Value.toText
  let total := (parts.map String.utf8ByteSize).sum + separator.utf8ByteSize * (parts.length - 1)
  if maxValueSize < total then .error (.tooLarge maxValueSize)
  else .ok (.str (separator.intercalate parts))

/-- A method of a list. -/
def listMethod (items : List Value) (method : String) (args : List Value) : Except RunError Value :=
  let needle := (args[0]?).getD .null
  match method with
  | "join" => join (if args.isEmpty then "," else argText args 0) items
  | "slice" => .ok (.arr (slice items args[0]? args[1]?))
  | "reverse" => .ok (.arr items.reverse)
  | "concat" => .ok (.arr (items ++ args.flatMap fun v =>
      match v with
      | .arr more => more
      | other => [other]))
  | "includes" => .ok (.bool (items.any (·.strictEq needle)))
  | "indexOf" => .ok (found (items.findIdx? (·.strictEq needle)))
  | _ => .error (.unknownMethod "array" method)

/-- A method of a number. -/
def numberMethod (n : Number) (method : String) (args : List Value) : Except RunError Value :=
  match method with
  | "toFixed" =>
    let places := min 20 (Decimal.toIndex (((args[0]?).map Value.toNumber).getD 0.0))
    .ok (.str (Decimal.fixed n.toFloat places))
  | _ => .error (.unknownMethod "number" method)

/-- A method of a value, called with values. -/
def valueMethod (v : Value) (method : String) (args : List Value) : Except RunError Value :=
  if method = "toString" then .ok (.str v.toText)
  else
    let result := match v with
      | .str s => textMethod s method args
      | .arr items => listMethod items method args
      | .num n => numberMethod n method args
      | .null => .error (.type s!"cannot call '{method}' on null")
      | _ => .error (.type s!"cannot call '{method}' on this value")
    result.bind checked

/-! ## Math -/

/-- The lesser of two doubles; a NaN gives way to the other one. -/
def lesser (a b : Float) : Float :=
  if Decimal.isNaN a then b else if Decimal.isNaN b then a else if a ≤ b then a else b

/-- The greater of two doubles; a NaN gives way to the other one. -/
def greater (a b : Float) : Float :=
  if Decimal.isNaN a then b else if Decimal.isNaN b then a else if a ≤ b then b else a

/-- A whole-number rounding of a double; what is not finite stays. -/
def rounded (round : Float → Int) (x : Float) : Float :=
  if Decimal.isFinite x then Float.ofInt (round x) else x

/-- A function of `Math`. A draw gives the low end of its range: handlers can only rely on the
range. -/
def mathFunction (method : String) (args : List Value) : Except RunError Value :=
  let numbers := args.map Value.toNumber
  let first := numbers.head?.getD (0.0 / 0.0)
  match method with
  | "floor" => .ok (.ofFloat (rounded Decimal.floor first))
  | "ceil" => .ok (.ofFloat (rounded Decimal.ceil first))
  | "round" => .ok (.ofFloat (rounded Decimal.floor (first + 0.5)))
  | "abs" => .ok (.ofFloat (if first < 0.0 then -first else first))
  | "min" => .ok (.ofFloat (numbers.foldl lesser (1.0 / 0.0)))
  | "max" => .ok (.ofFloat (numbers.foldl greater (-1.0 / 0.0)))
  | "random" => .ok (.ofFloat 0.0)
  | _ => .error (.unknownMethod "Math" method)

end WidgetFlow.Script
