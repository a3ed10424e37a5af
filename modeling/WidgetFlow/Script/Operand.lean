import WidgetFlow.Value.Coerce

/-!
# What handler code computes with

Handlers compute with values and with a few things that are no values: the accessor, selections of
components and the built-in globals. Those can be held in variables, and turn into null wherever a
value is needed.
-/

namespace WidgetFlow.Script

/-- The built-in globals. -/
inductive Global where
  | math | console | string | number | boolean
deriving DecidableEq, Repr

/-- A global by name. -/
def Global.title : Global → String
  | .math => "Math"
  | .console => "Console"
  | .string => "String"
  | .number => "Number"
  | .boolean => "Boolean"

/-- What an expression of the handler language gives. -/
inductive Operand where
  | value (v : Value)
  | accessor
  | handle (ids : List String)
  | global (g : Global)
deriving BEq, Inhabited

namespace Operand

/-- Null as an operand. -/
def null : Operand := .value .null

/-- An operand where a value is needed. -/
def toValue : Operand → Value
  | .value v => v
  | _ => .null

/-- Whether an operand counts as true. All that is no value does. -/
def truthy : Operand → Bool
  | .value v => v.truthy
  | _ => true

/-- An operand as text, for messages and the console. -/
def describe : Operand → String
  | .value v => v.toText
  | .accessor => "accessor"
  | .handle ids => "[handle " ++ ",".intercalate ids ++ "]"
  | .global g => g.title

end Operand

/-- Why a run of a handler failed. -/
inductive RunError where
  | stepLimit (limit : Nat)
  | unknownVariable (name : String)
  | assignToConstant (name : String)
  | redeclared (name : String)
  | invalidTarget
  | notCallable (callee : String)
  | unknownMethod (receiver method : String)
  | type (reason : String)
  | indexOutOfRange (index : Float) (length : Nat)
  | tooLarge (limit : Nat)
deriving DecidableEq

/-- The message of a failed run. -/
def RunError.message : RunError → String
  | .stepLimit limit => s!"Step limit of {limit} exceeded"
  | .unknownVariable name => s!"Unknown variable: {name}"
  | .assignToConstant name => s!"Cannot assign to constant '{name}'"
  | .redeclared name => s!"Variable '{name}' is already declared in this scope"
  | .invalidTarget => "Invalid assignment target"
  | .notCallable callee => s!"'{callee}' is not a function"
  | .unknownMethod receiver method => s!"Unknown method '{method}' on {receiver}"
  | .type reason => s!"Type error: {reason}"
  | .indexOutOfRange index length =>
    "Array index " ++ Decimal.plain index ++ s!" is too far past the end (length {length})"
  | .tooLarge limit => s!"Value exceeds the size limit of {limit}"

end WidgetFlow.Script
