import WidgetFlow.Value.Record

/-!
# Connection points

A component is connected at its points. A point has a type of data, a direction, and perhaps a
default value; points come in groups, the capabilities of a component.
-/

namespace WidgetFlow

/-- The types of data. -/
inductive DataType where
  | text | number | boolean | date | object | array | any
deriving DecidableEq, Repr, Inhabited

namespace DataType

/-- The types of data with their names. -/
def table : List (String × DataType) :=
  [("text", .text), ("number", .number), ("boolean", .boolean), ("date", .date),
   ("object", .object), ("array", .array), ("any", .any)]

/-- The name of a type of data. -/
def name : DataType → String
  | .text => "text" | .number => "number" | .boolean => "boolean" | .date => "date"
  | .object => "object" | .array => "array" | .any => "any"

/-- Whether data of one type may go where data of the other is expected. -/
def isCompatible (a b : DataType) : Bool := a = b || a = .any || b = .any

/-- The type of a value; null may be of any type. -/
def ofValue : Value → DataType
  | .str _ => .text
  | .num _ => .number
  | .bool _ => .boolean
  | .arr _ => .array
  | .obj _ => .object
  | .null => .any

/-- The type of data that a value names. -/
def read? (v : Value) : Option DataType := v.oneOf? table

end DataType

/-- The directions of a point. -/
inductive Direction where
  | input | output | bidirectional
deriving DecidableEq, Repr, Inhabited

namespace Direction

/-- The directions with their names. -/
def table : List (String × Direction) :=
  [("input", .input), ("output", .output), ("bidirectional", .bidirectional)]

/-- The name of a direction. -/
def name : Direction → String
  | .input => "input" | .output => "output" | .bidirectional => "bidirectional"

/-- Whether values leave a component at a point of this direction. -/
def emits : Direction → Bool
  | .input => false
  | _ => true

/-- Whether values enter a component at a point of this direction. -/
def accepts : Direction → Bool
  | .output => false
  | _ => true

/-- The direction that a value names. -/
def read? (v : Value) : Option Direction := v.oneOf? table

end Direction

/-- A connection point. -/
structure Point where
  id : String
  name : String
  dataType : DataType
  direction : Direction
  default? : Option Value
deriving BEq, Inhabited

namespace Point

/-- A point that is called by its id and has no default. -/
def named (id : String) (dataType : DataType) (direction : Direction) (name : String := id) : Point :=
  ⟨id, name, dataType, direction, none⟩

/-- An input point. -/
def input (id : String) (dataType : DataType) (name : String := id) : Point :=
  named id dataType .input name

/-- An output point. -/
def output (id : String) (dataType : DataType) (name : String := id) : Point :=
  named id dataType .output name

/-- A point for both directions. -/
def bidirectional (id : String) (dataType : DataType) : Point := named id dataType .bidirectional

/-- The point that a value describes. -/
def ofValue? (v : Value) : Option Point := do
  let given ← v.record? ["id", "name", "dataType", "direction", "defaultValue"]
  let id ← Value.required given "id" Value.text?
  let name ← Value.required given "name" Value.text?
  let dataType ← Value.required given "dataType" DataType.read?
  let direction ← Value.required given "direction" Direction.read?
  let default? ← Value.optional given "defaultValue" fun v => some v.canonical
  return { id, name, dataType, direction, default? }

/-- A point as a value. -/
def toValue (p : Point) : Value :=
  .obj ([("dataType", .str p.dataType.name)] ++
    (p.default?.map fun v => ("defaultValue", v)).toList ++
    [("direction", .str p.direction.name), ("id", .str p.id), ("name", .str p.name)])

end Point

/-- A named group of points. -/
structure Capability where
  name : String
  points : List Point
deriving BEq, Inhabited

/-- The group of points that a value describes. -/
def Capability.ofValue? (v : Value) : Option Capability := do
  let given ← v.record? ["name", "connectionPoints"]
  let name ← Value.required given "name" Value.text?
  let points ← Value.required given "connectionPoints" (Value.listOf? Point.ofValue?)
  return { name, points }

/-- A group of points as a value. -/
def Capability.toValue (c : Capability) : Value :=
  .obj [("connectionPoints", .arr (c.points.map Point.toValue)), ("name", .str c.name)]

end WidgetFlow
