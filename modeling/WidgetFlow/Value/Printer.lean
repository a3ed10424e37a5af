import WidgetFlow.Value.Basic
import WidgetFlow.Decimal.Text

/-!
# Values as JSON text

The compact JSON text of a value: no blanks, fields in the order of their keys, and an escape only
for the quote, the backslash and the control characters.
-/

namespace WidgetFlow

/-- Doubles are written positionally while the first digit stands for a power of ten from -5 to
15, with at least one digit behind the point, and with an exponent beyond. -/
def jsonForm : Decimal.NumberForm := ⟨-5, 15, 1⟩

/-- A number in JSON. -/
def Number.toJson : Number → String
  | .int n => toString n
  | .float x => jsonForm.write x

namespace Value

/-- A control character by its four hexadecimal digits. -/
def unicodeEscape (c : Char) : List Char :=
  ['\\', 'u', '0', '0', Nat.digitChar (c.toNat / 16), Nat.digitChar (c.toNat % 16)]

/-- A character inside a JSON string. -/
def escapeChar (c : Char) : List Char :=
  if c = '"' then ['\\', '"']
  else if c = '\\' then ['\\', '\\']
  else if c = '\x08' then ['\\', 'b']
  else if c = '\x0c' then ['\\', 'f']
  else if c = '\n' then ['\\', 'n']
  else if c = '\r' then ['\\', 'r']
  else if c = '\t' then ['\\', 't']
  else if c.toNat < 0x20 then unicodeEscape c
  else [c]

/-- A text as a JSON string. -/
def quote (s : String) : String :=
  "\"" ++ String.ofList (s.toList.flatMap escapeChar) ++ "\""

mutual
/-- The compact JSON text of a value. -/
def toJson : Value → String
  | .null => "null"
  | .bool b => if b then "true" else "false"
  | .num n => n.toJson
  | .str s => quote s
  | .arr items => "[" ++ ",".intercalate (itemsJson items) ++ "]"
  | .obj fields => "\x7b" ++ ",".intercalate (fieldsJson fields) ++ "\x7d"
/-- The JSON text of every item. -/
def itemsJson : List Value → List String
  | [] => []
  | v :: rest => v.toJson :: itemsJson rest
/-- The JSON text of every field. -/
def fieldsJson : List (String × Value) → List String
  | [] => []
  | (k, v) :: rest => (quote k ++ ":" ++ v.toJson) :: fieldsJson rest
end

end Value

end WidgetFlow
