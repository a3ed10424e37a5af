import WidgetFlow.Script.Operand

/-!
# The size budget

Every value that a handler builds has a size of at most `maxValueSize`. The check walks the value
with a list of what is still to be looked at, the last one first, and stops as soon as the budget is
overdrawn.
-/

namespace WidgetFlow.Script

/-- The greatest size of a value that a handler builds. -/
def maxValueSize : Nat := 262144

/-- What looking at one node costs: one, and the bytes of its text or of its keys. -/
def nodeCost : Value → Nat
  | .str s => 1 + s.utf8ByteSize
  | .obj fields => 1 + (fields.map fun f => f.1.utf8ByteSize).sum
  | _ => 1

/-- The values directly below a node. -/
def below : Value → List Value
  | .arr items => items
  | .obj fields => fields.map (·.2)
  | _ => []

/-- A node always costs something. -/
theorem nodeCost_pos (v : Value) : 0 < nodeCost v := by
  cases v <;> simp only [nodeCost] <;> omega

/-- Whether the budget covers all the pending values, the next one first, with everything below them.
What is directly below a node is put in front one by one, so the last of it comes next. -/
def covers (budget : Nat) : List Value → Bool
  | [] => true
  | v :: pending =>
    if nodeCost v ≤ budget then
      covers (budget - nodeCost v) ((below v).reverse ++ pending)
    else false
termination_by budget
decreasing_by
  have := nodeCost_pos v
  omega

/-- Whether a value stays within the budget. -/
def withinBudget (v : Value) : Bool := covers maxValueSize [v]

/-- A value, if it stays within the budget. -/
def checked (v : Value) : Except RunError Value :=
  if withinBudget v then .ok v else .error (.tooLarge maxValueSize)

end WidgetFlow.Script
