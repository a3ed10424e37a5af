import WidgetFlow.Script.Handler

/-!
# Transforms

A connection may map the values it carries. A transform is a constant, one of a library of
operations, or handler code. A transform of handler code that fails at run time lets its value pass
unchanged; the lines it printed are kept.
-/

namespace WidgetFlow

/-- The operations of the library. -/
inductive LibraryOp where
  | identity | toText | toNumber | upper | lower | capitalize | reverse | negate | clear
  | add (n : Float)
  | subtract (n : Float)
  | multiply (n : Float)
  | divide (n : Float)
  | randomPosition
  | randomNumber (least : Int)
deriving DecidableEq

/-- A transform. -/
inductive Transform where
  | constant (v : Value)
  | library (spec : String) (op : LibraryOp)
  | code (source : String) (handler : Script.Handler) (maxSteps : Nat)

namespace LibraryOp

/-- A list in reverse, or a text in reverse. -/
def reversed : Value → Value
  | .arr items => .arr items.reverse
  | v => .str (String.ofList v.toText.toList.reverse)

/-- A number with the other sign, or the other truth value. -/
def negated : Value → Value
  | .num n => .ofFloat (-n.toFloat)
  | v => .bool (!v.truthy)

/-- A value mapped by an operation. A random value is the least one of its range. -/
def apply : LibraryOp → Value → Value
  | .identity, v => v
  | .toText, v => .str v.toText
  | .toNumber, v => .ofFloat v.toNumber
  | .upper, v => .str (Text.upper v.toText)
  | .lower, v => .str (Text.lower v.toText)
  | .capitalize, v => .str (Text.capitalize v.toText)
  | .reverse, v => reversed v
  | .negate, v => negated v
  | .clear, _ => .str ""
  | .add n, v => .ofFloat (v.toNumber + n)
  | .subtract n, v => .ofFloat (v.toNumber - n)
  | .multiply n, v => .ofFloat (v.toNumber * n)
  | .divide n, v => .ofFloat (v.toNumber / n)
  | .randomPosition, _ => .obj [("left", .ofInt 0), ("top", .ofInt 0)]
  | .randomNumber least, _ => .ofInt least

/-- The names of the operations. -/
def names : List String :=
  ["identity", "toString", "toNumber", "toUpperCase", "toLowerCase", "capitalize", "reverse",
   "negate", "add", "subtract", "multiply", "divide", "clear", "randomPosition", "randomNumber"]

/-- The pieces of a specification: an operation and its arguments, separated by colons. -/
def pieces (spec : String) : List String := (Text.split ":" spec).map Text.trim

/-- A number as argument; it has to be finite. -/
def operand? (raw : String) : Option Float := (Decimal.readFloat raw).filter Decimal.isFinite

/-- A whole number of 64 bits as argument. -/
def bound? (raw : String) : Option Int :=
  (Decimal.readInt raw).filter fun n => -(2 ^ 63) ≤ n && n < 2 ^ 63

/-- The operation of a specification. A division by zero lets values pass unchanged. -/
def ofPieces? : List String → Option LibraryOp
  | ["identity"] => some .identity
  | ["toString"] => some .toText
  | ["toNumber"] => some .toNumber
  | ["toUpperCase"] => some .upper
  | ["toLowerCase"] => some .lower
  | ["capitalize"] => some .capitalize
  | ["reverse"] => some .reverse
  | ["negate"] => some .negate
  | ["clear"] => some .clear
  | ["randomPosition"] => some .randomPosition
  | ["randomNumber"] => some (.randomNumber 0)
  | ["add", n] => (operand? n).map .add
  | ["subtract", n] => (operand? n).map .subtract
  | ["multiply", n] => (operand? n).map .multiply
  | ["divide", n] => (operand? n).map fun n => if n == 0.0 then .identity else .divide n
  | ["randomNumber", least, most] => do
    let least ← bound? least
    let most ← bound? most
    if most < least then none else some (.randomNumber least)
  | _ => none

end LibraryOp

namespace Transform

/-- Whether a specification starts with the name of an operation. -/
def isLibraryName (spec : String) : Bool :=
  LibraryOp.names.contains ((LibraryOp.pieces spec).headD "")

/-- The transform of the library that a specification names. -/
def ofSpec? (spec : String) : Option Transform :=
  let spec := Text.trim spec
  (LibraryOp.ofPieces? (LibraryOp.pieces spec)).map (.library spec)

/-- The transform of handler code. -/
def ofCode (source : String) (maxSteps : Nat) : Except Script.CompileError Transform :=
  (Script.compile source).map fun h => .code source h maxSteps

/-- The name of a transform. -/
def name : Transform → String
  | .constant _ => "constant"
  | .library spec _ => spec
  | .code source _ _ => "custom:" ++ Text.trim source

/-- A value mapped, with the lines printed on the way. -/
def apply : Transform → Value → Value × List String
  | .constant v, _ => (v, [])
  | .library _ op, v => (op.apply v, [])
  | .code _ handler maxSteps, v =>
    match handler.transform v maxSteps with
    | (.ok mapped, lines) => (mapped, lines)
    | (.error _, lines) => (v, lines)

end Transform

end WidgetFlow
