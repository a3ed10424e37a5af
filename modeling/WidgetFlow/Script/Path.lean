import WidgetFlow.Script.Operand

/-!
# Paths into values

Reading a member or an item of a value and writing one. A write may name a field that is not there
yet, may reach past the end of a list by at most `maxIndexGap` items, the gap filled with null, and
makes a record of a null that it goes through; every other mismatch is an error.
-/

namespace WidgetFlow.Script

/-- How far past the end of a list an item may be written. -/
def maxIndexGap : Nat := 1024

/-- One step of a path: to a member by name, or to an item by a value. -/
inductive PathStep where
  | key (name : String)
  | index (v : Value)

/-- The position a value stands for as an index, if it is a whole number that is not negative. -/
def position? (index : Value) : Option Nat :=
  let n := index.toNumber
  if Decimal.isWhole n && 0.0 ≤ n then some (Decimal.toIndex n) else none

/-- The item at an index, if there is one. -/
def itemAt? {α : Type} (items : List α) (index : Value) : Option α :=
  (position? index).bind (items[·]?)

/-- A member of an operand. Texts, lists and selections have a length, a selection has the id of
its first component, and what is not there is null. -/
def member : Operand → String → Value
  | .value (.str s), "length" => .ofNat s.length
  | .value (.arr items), "length" => .ofNat items.length
  | .value (.obj fields), name => (Dict.get? fields name).getD .null
  | .handle ids, "id" => (ids.head?.map Value.str).getD .null
  | .handle ids, "length" => .ofNat ids.length
  | .global .math, "PI" => .ofFloat 3.141592653589793
  | .global .math, "E" => .ofFloat 2.718281828459045
  | _, _ => .null

/-- An item of a list, a field of a record, or a character of a text; null if it is not there. -/
def indexValue (base : Operand) (index : Value) : Value :=
  match base with
  | .value (.arr items) => (itemAt? items index).getD .null
  | .value (.obj fields) => (Dict.get? fields index.toText).getD .null
  | .value (.str s) => ((itemAt? s.toList index).map fun c => .str (String.singleton c)).getD .null
  | _ => .null

/-! ## Writing -/

/-- Where an entry stands in a container: under a key of a record, or at a position of a list. -/
inductive Spot where
  | field (key : String)
  | item (position : Nat)
deriving DecidableEq, Repr

/-- The entry of a container at a spot. -/
def entryAt? : Value → Spot → Option Value
  | .obj fields, .field k => Dict.get? fields k
  | .arr items, .item k => items[k]?
  | _, _ => none

/-- A container with another entry at a spot that has one. -/
def setEntry : Value → Spot → Value → Value
  | .obj fields, .field k, v => .obj (Dict.modify fields k fun _ => v)
  | .arr items, .item k, v => .arr (items.set k v)
  | data, _, _ => data

/-- The fields of a record, with null under a key that was not there. -/
def withField (fields : Dict Value) (k : String) : Dict Value :=
  if Dict.contains fields k then fields else Dict.insert fields k .null

/-- The items of a list, with null at every position up to a given one that was not there. -/
def withItem (items : List Value) (k : Nat) : List Value :=
  items ++ List.replicate (k + 1 - items.length) .null

/-- The spot that a step goes to in a container, and the container with an entry at this spot. -/
def openSpot : PathStep → Value → Except RunError (Spot × Value)
  | .key k, .obj fields => .ok (.field k, .obj (withField fields k))
  | .index i, .obj fields => .ok (.field i.toText, .obj (withField fields i.toText))
  | .index i, .arr items =>
    let n := i.toNumber
    if !(Decimal.isWhole n && 0.0 ≤ n) then .error .invalidTarget
    else if Float.ofNat (items.length + maxIndexGap) < n then
      .error (.indexOutOfRange n items.length)
    else .ok (.item (Decimal.toIndex n), .arr (withItem items (Decimal.toIndex n)))
  | _, _ => .error .invalidTarget

/-- What is there when a path goes on below an entry: null gives way to an empty record. -/
def slotFor (rest : List PathStep) (old : Value) : Value :=
  if !rest.isEmpty && old.isNull then .obj [] else old

/-- Writes at the end of a path, in place: entries that are missing are made on the way down, before
it is known whether the rest of the path can be followed. -/
def write (new : Value) : List PathStep → Value → Except RunError Unit × Value
  | [], _ => (.ok (), new)
  | step :: rest, data =>
    match openSpot step data with
    | .error e => (.error e, data)
    | .ok (spot, data) =>
      let (done, slot) := write new rest (slotFor rest ((entryAt? data spot).getD .null))
      (done, setEntry data spot slot)

end WidgetFlow.Script
