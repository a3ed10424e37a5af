import WidgetFlow.Widget.Store
import WidgetFlow.Widget.Point

/-!
# Behaviors

A behavior is reusable logic with a state of its own for each component it is applied to. Values
that arrive at one of its input points run its hook, which sees the state and, for reading, its
owner, and answers with a new state and with effects on the owner. Effects change the owner or emit
a value; a hook itself changes nothing but its state.
-/

namespace WidgetFlow

/-- Which kinds of components a behavior may be applied to. -/
inductive Compatibility where
  | any
  | only (kinds : List Kind)
deriving DecidableEq, Repr

/-- Whether a kind is allowed. -/
def Compatibility.allows : Compatibility → Kind → Bool
  | .any, _ => true
  | .only kinds, kind => kinds.contains kind

/-- An effect on the owner of a behavior. -/
inductive Effect where
  | setProperty (key : String) (v : Value)
  | setStyle (property : String) (v : Value)
  | addClass (name : String)
  | removeClass (name : String)
  | setHidden (hidden : Bool)
  | emit (point : String) (v : Value)
deriving BEq, Inhabited

namespace Effect

/-- An effect as a value: the list of its name and its arguments. -/
def toValue : Effect → Value
  | .setProperty key v => .arr [.str "setProperty", .str key, v]
  | .setStyle property v => .arr [.str "setStyle", .str property, v]
  | .addClass name => .arr [.str "addClass", .str name]
  | .removeClass name => .arr [.str "removeClass", .str name]
  | .setHidden hidden => .arr [.str "setHidden", .bool hidden]
  | .emit point v => .arr [.str "emit", .str point, v]

/-- The effect that a value describes. -/
def ofValue? : Value → Option Effect
  | .arr [.str "setProperty", .str key, v] => some (.setProperty key v)
  | .arr [.str "setStyle", .str property, v] => some (.setStyle property v)
  | .arr [.str "addClass", .str name] => some (.addClass name)
  | .arr [.str "removeClass", .str name] => some (.removeClass name)
  | .arr [.str "setHidden", .bool hidden] => some (.setHidden hidden)
  | .arr [.str "emit", .str point, v] => some (.emit point v)
  | _ => none

end Effect

/-- Applies an effect to a component; an emission changes nothing yet. -/
def Effect.apply {σ : Type} [View σ] (owner : String) (view : σ) : Effect → σ
  | .setProperty key v => (View.setProperty view owner key v).2
  | .setStyle property v => (View.setStyle view owner property v).2
  | .addClass name => (View.addClass view owner name).2
  | .removeClass name => (View.removeClass view owner name).2
  | .setHidden hidden => (View.setHidden view owner hidden).2
  | .emit _ _ => view

/-- The emission that an effect asks for. -/
def Effect.emission? : Effect → Option (String × Value)
  | .emit point v => some (point, v)
  | _ => none

/-- Applies effects to a component in turn, and gives the emissions among them in order. -/
def applyEffects {σ : Type} [View σ] (owner : String) (effects : List Effect) (view : σ) :
    List (String × Value) × σ :=
  (effects.filterMap Effect.emission?, effects.foldl (Effect.apply owner) view)

/-- What a hook sees of the owner of its behavior. -/
structure Owner where
  id : String
  /-- The effective property under a key. -/
  property : String → Option Value
  hidden : Bool

/-- A component in a store as the owner of a behavior. -/
def Owner.of (s : Store) (id : String) : Owner :=
  ⟨id, View.property s id, (View.isHidden s id).getD false⟩

/-- A hook: from the owner and the state to the new state and the effects. -/
abbrev Hook := Owner → Dict Value → Dict Value × List Effect

/-- A behavior. -/
structure Behavior where
  id : String
  /-- A free word for what it is about. -/
  category : String
  compatibility : Compatibility := .any
  inputs : List Point := []
  outputs : List Point := []
  defaults : Dict Value := []
  onAttach : Hook := fun _ state => (state, [])
  /-- Runs when a value arrives at an input point. -/
  onInput : String → Value → Hook
  onDetach : Hook := fun _ state => (state, [])

namespace Behavior

/-- All points, the inputs first. -/
def points (b : Behavior) : List Point := b.inputs ++ b.outputs

/-- Whether a behavior has an input point of an id. -/
def hasInput (b : Behavior) (point : String) : Bool := b.inputs.any (·.id = point)

end Behavior

/-- What a behavior is applied with: parameters, and a first state that goes before them. -/
structure BehaviorOptions where
  initialState : Dict Value := []
  params : Dict Value := []
deriving BEq, Inhabited

namespace BehaviorOptions

/-- The options that a record describes: its field `initialState` has to be a record, and every
other field is a parameter. Anything else means no options. -/
def ofValue (v : Value) : BehaviorOptions :=
  match v with
  | .obj fields =>
    let params := Dict.erase fields "initialState"
    match Dict.get? fields "initialState" with
    | none => { params }
    | some (.obj initialState) => { initialState, params }
    | some _ => {}
  | _ => {}

/-- The state that a behavior starts with, given its defaults. -/
def seed (o : BehaviorOptions) (defaults : Dict Value) : Dict Value :=
  Dict.union (Dict.union defaults o.params) o.initialState

end BehaviorOptions

end WidgetFlow
