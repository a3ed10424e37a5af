import WidgetFlow.Value.Basic
import WidgetFlow.Text.Blank

/-!
# What handler code reaches

Handler code reaches components only through a host: it selects them, reads and writes their
properties, styles, classes and visibility, emits on their points, and prints lines. A `View` reads
and writes components one at a time; a `Host` is a view that also selects, emits and prints.

The state of a host is a value, and every call that changes something gives the next state.
-/

namespace WidgetFlow

/-- Reading and writing components. A write tells whether there was such a component. -/
class View (σ : Type) where
  /-- The effective property of a component. -/
  property : σ → String → String → Option Value
  setProperty : σ → String → String → Value → Bool × σ
  stateValue : σ → String → String → Option Value
  style : σ → String → String → Option Value
  setStyle : σ → String → String → Value → Bool × σ
  addClass : σ → String → String → Bool × σ
  removeClass : σ → String → String → Bool × σ
  setHidden : σ → String → Bool → Bool × σ
  isHidden : σ → String → Option Bool
  /-- All effective properties of a component. -/
  properties : σ → String → Option (Dict Value)

namespace Script

/-- The argument of the accessor. -/
inductive Selector where
  | self
  | id (id : String)
  | cssClass (name : String)
  | tag (tag : String)
deriving DecidableEq, Repr

/-- The selector that a text spells, blanks around it aside. -/
def Selector.parse (raw : String) : Selector :=
  let raw := Text.trim raw
  if raw = "self" || raw = "this" then .self
  else
    match raw.toList with
    | '#' :: rest => .id (String.ofList rest)
    | '.' :: rest => .cssClass (String.ofList rest)
    | _ => .tag raw

/-- What handler code calls. -/
class Host (σ : Type) extends View σ where
  /-- The components that a selector matches, in order. -/
  select : σ → Selector → List String
  emit : σ → String → String → Value → σ
  log : σ → String → σ

/-- A host without components, which keeps the lines printed so far. -/
structure Console where
  lines : List String := []
deriving DecidableEq, Repr

instance : Host Console where
  property _ _ _ := none
  setProperty c _ _ _ := (false, c)
  stateValue _ _ _ := none
  style _ _ _ := none
  setStyle c _ _ _ := (false, c)
  addClass c _ _ := (false, c)
  removeClass c _ _ := (false, c)
  setHidden c _ _ := (false, c)
  isHidden _ _ := none
  properties _ _ := none
  select _ _ := []
  emit c _ _ _ := c
  log c line := ⟨c.lines ++ [line]⟩

end Script

end WidgetFlow
