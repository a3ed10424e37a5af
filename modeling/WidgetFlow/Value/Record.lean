import WidgetFlow.Value.Basic

/-!
# Records with declared fields

A record with declared fields may be written with named fields, in any order and with further
fields that are ignored, or as a list of its fields in the declared order, where trailing fields may
be missing. A declared field may not be named twice, and the list may not be longer than the
declaration.
-/

namespace WidgetFlow

namespace Value

/-- The declared fields that a value gives, by name. -/
def record? (names : List String) : Value → Option (List (String × Value))
  | .obj fields =>
    let given := fields.filter fun f => names.contains f.1
    if (given.map (·.1)).Nodup then some given else none
  | .arr items => if items.length ≤ names.length then some (names.zip items) else none
  | _ => none

/-- A field that must be given. -/
def required {α : Type} (given : List (String × Value)) (name : String) (read : Value → Option α) :
    Option α :=
  (Dict.get? given name).bind read

/-- A field that may be missing; a given one must read. -/
def withDefault {α : Type} (given : List (String × Value)) (name : String) (default : α)
    (read : Value → Option α) : Option α :=
  match Dict.get? given name with
  | none => some default
  | some v => read v

/-- A field that may be missing or null; another given one must read. -/
def optional {α : Type} (given : List (String × Value)) (name : String) (read : Value → Option α) :
    Option (Option α) :=
  match Dict.get? given name with
  | none => some none
  | some .null => some none
  | some v => (read v).map some

/-- A list whose items all read. -/
def listOf? {α : Type} (read : Value → Option α) : Value → Option (List α)
  | .arr items => items.mapM read
  | _ => none

/-- A record read as a dictionary. -/
def dict? : Value → Option (Dict Value)
  | .obj fields => (Value.obj fields).canonical.fields?
  | _ => none

/-- A record whose fields all read, as a dictionary. -/
def dictOf? {α : Type} (read : Value → Option α) : Value → Option (Dict α)
  | .obj fields => (fields.mapM fun f => (read f.2).map fun a => (f.1, a)).map Dict.ofEntries
  | _ => none

/-- A whole number that is not negative and fits into a word of 64 bits. -/
def count? : Value → Option Nat
  | .num (.int n) => if 0 ≤ n && n ≤ 2 ^ 64 - 1 then some n.toNat else none
  | _ => none

/-- One of several names. The name may also be written as a record that gives it the field null. -/
def oneOf? {α : Type} (table : List (String × α)) : Value → Option α
  | .str s => table.lookup s
  | .obj [(s, .null)] => table.lookup s
  | _ => none

end Value

end WidgetFlow
