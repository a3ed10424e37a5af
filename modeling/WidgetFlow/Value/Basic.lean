import WidgetFlow.Dict

/-!
# Values

The values that properties, states, events and handlers hold: null, truth values, numbers, texts,
lists and records of values. A number is a whole number or a double; the two kinds are kept apart,
so `1` and `1.0` are different values.

The fields of a record are a dictionary. A value just read from text may hold its fields in any
order and more than once; `Value.canonical` puts such a value in order.
-/

namespace WidgetFlow

/-- A whole number or a finite double. -/
inductive Number where
  | int (n : Int)
  | float (x : Float)
deriving DecidableEq, BEq

/-- The double nearest to a number. -/
def Number.toFloat : Number → Float
  | .int n => Float.ofInt n
  | .float x => x

/-- A value. Two values are `==` when they have the same shape and equal leaves; doubles are
compared as numbers, so that `0.0` and `-0.0` count as equal. -/
inductive Value where
  | null
  | bool (b : Bool)
  | num (n : Number)
  | str (s : String)
  | arr (items : List Value)
  | obj (fields : List (String × Value))
deriving BEq, Inhabited

namespace Value

/-- A whole number as a value. -/
def ofInt (n : Int) : Value := .num (.int n)

/-- A count as a value. -/
def ofNat (n : Nat) : Value := .num (.int n)

/-- Whether a value is null. -/
def isNull : Value → Bool
  | .null => true
  | _ => false

/-- The text a value is, if it is one. -/
def text? : Value → Option String
  | .str s => some s
  | _ => none

/-- The truth value a value is, if it is one. -/
def bool? : Value → Option Bool
  | .bool b => some b
  | _ => none

/-- The items of a list. -/
def items? : Value → Option (List Value)
  | .arr items => some items
  | _ => none

/-- The fields of a record. -/
def fields? : Value → Option (Dict Value)
  | .obj fields => some fields
  | _ => none

/-- A field of a record. -/
def field? : Value → String → Option Value
  | .obj fields, key => Dict.get? fields key
  | _, _ => none

mutual
/-- The value with the fields of every record in order, of several under one key the last. -/
def canonical : Value → Value
  | .arr items => .arr (canonicalItems items)
  | .obj fields => .obj (Dict.ofEntries (canonicalFields fields))
  | v => v
/-- Every item in canonical form. -/
def canonicalItems : List Value → List Value
  | [] => []
  | v :: rest => canonical v :: canonicalItems rest
/-- Every field in canonical form, in the given order. -/
def canonicalFields : List (String × Value) → List (String × Value)
  | [] => []
  | (k, v) :: rest => (k, canonical v) :: canonicalFields rest
end

mutual
/-- The size of a value: one per node and one per byte of every text and key. -/
def size : Value → Nat
  | .str s => 1 + s.utf8ByteSize
  | .arr items => 1 + itemsSize items
  | .obj fields => 1 + fieldsSize fields
  | _ => 1
/-- The size of the items of a list together. -/
def itemsSize : List Value → Nat
  | [] => 0
  | v :: rest => v.size + itemsSize rest
/-- The size of the fields of a record together, keys included. -/
def fieldsSize : List (String × Value) → Nat
  | [] => 0
  | (k, v) :: rest => k.utf8ByteSize + v.size + fieldsSize rest
end

end Value

end WidgetFlow
