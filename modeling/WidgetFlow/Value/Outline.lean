import WidgetFlow.Value.Basic

/-!
# Outlines

An outline tells which parts of a value are read: the whole of it, every item of a list along one
outline, or of a record the declared fields alone. A record may also be written as a list of its
fields in the declared order; the items behind the last declared place lie outside the outline, and
`Outline.trim` takes them away.
-/

namespace WidgetFlow

/-- Which parts of a value are read. -/
inductive Outline where
  | whole
  | list (item : Outline)
  | record (fields : List (String × Outline))
deriving Inhabited

namespace Outline

/-- A record with fields that are read as a whole. -/
def flat (names : List String) : Outline := .record (names.map fun name => (name, .whole))

/-- How a field of a record is read; not at all if the record does not declare it. -/
def field? : Outline → String → Option Outline
  | .record fields, name => fields.lookup name
  | _, _ => some .whole

/-- How the item of a list at a place is read. -/
def item : Outline → Nat → Outline
  | .whole, _ => .whole
  | .list item, _ => item
  | .record fields, place => ((fields[place]?).map (·.2)).getD .whole

mutual
/-- The value without the items of records written as lists that lie behind the last declared
place. -/
def trim : Outline → Value → Value
  | .list item, .arr items => .arr (items.map (trim item))
  | .record fields, .arr items => .arr (trimPlaces fields items)
  | .record fields, .obj given => .obj (trimFields fields given)
  | _, v => v
/-- The items at the declared places, each of them trimmed. -/
def trimPlaces : List (String × Outline) → List Value → List Value
  | (_, outline) :: fields, v :: items => trim outline v :: trimPlaces fields items
  | _, _ => []
/-- The fields of a record, the declared ones among them trimmed. -/
def trimFields : List (String × Outline) → List (String × Value) → List (String × Value)
  | [], given => given
  | (name, outline) :: fields, given =>
    trimFields fields (given.map fun (k, v) => (k, if k = name then trim outline v else v))
end

end Outline

end WidgetFlow
