import WidgetFlow.Behavior.Basic
import WidgetFlow.Value.Coerce

/-!
# The built-in behaviors

Toggling through a list of states, placing a component, counting, and showing and hiding.
-/

namespace WidgetFlow.Standard

/-- A whole number in a state, if the value there is a finite number. -/
def intState (state : Dict Value) (key : String) (otherwise : Int) : Int :=
  match (Dict.get? state key).map Value.toNumber with
  | some n => if Decimal.isFinite n then Decimal.toWord n else otherwise
  | none => otherwise

/-- A text in a state. -/
def textState (state : Dict Value) (key otherwise : String) : String :=
  ((Dict.get? state key).bind Value.text?).getD otherwise

/-- A number in a state. -/
def numberState (state : Dict Value) (key : String) (otherwise : Float) : Float :=
  ((Dict.get? state key).map Value.toNumber).getD otherwise

/-! ## Toggling -/

/-- The states that a toggle goes through. -/
def toggleStates (state : Dict Value) : List Value :=
  ((Dict.get? state "states").bind Value.items?).getD []

/-- Brings the index of a toggle into range and writes the state it points at into the property;
gives that state too. Without states nothing happens. -/
def toggleCurrent (state : Dict Value) : Dict Value × Option (Value × Effect) :=
  let states := toggleStates state
  let i := intState state "index" 0 % states.length
  match states[i.toNat]? with
  | none => (state, none)
  | some current =>
    let state := Dict.insert state "index" (.ofInt i)
    (state, some (current, .setProperty (textState state "property" "state") current))

/-- Goes through a list of states. -/
def toggle : Behavior where
  id := "toggle"
  category := "interaction"
  inputs := [.input "trigger" .any "Trigger"]
  outputs := [.output "toggled" .any "Toggled"]
  defaults := [("index", .ofInt 0), ("property", .str "state"),
    ("states", .arr [.bool false, .bool true])]
  onAttach _ state :=
    let (state, current) := toggleCurrent state
    (state, (current.map (·.2)).toList)
  onInput _ _ _ state :=
    let count := max 1 (toggleStates state).length
    let next := intState state "index" 0 % count + 1
    match toggleCurrent (Dict.insert state "index" (.ofInt next)) with
    | (state, some (current, write)) => (state, [write, .emit "toggled" current])
    | (state, none) => (state, [])

/-! ## Placing -/

/-- A number of pixels. -/
def pixels (n : Int) : Value := .str s!"{n}px"

/-- Places a component, and notes the place. -/
def place (left top : Int) (state : Dict Value) : Dict Value × List Effect :=
  (Dict.insert (Dict.insert state "left" (.ofInt left)) "top" (.ofInt top),
    [.setStyle "position" (.str "absolute"), .setStyle "left" (pixels left),
     .setStyle "top" (pixels top)])

/-- Places a component and says where. -/
def move (left top : Int) (state : Dict Value) : Dict Value × List Effect :=
  let (state, effects) := place left top state
  (state, effects ++
    [.emit "positionChanged" (.obj [("left", .ofInt left), ("top", .ofInt top)])])

/-- A coordinate that a value gives. -/
def coordinate (v : Value) (key : String) (otherwise : Int) : Int :=
  match (v.field? key).map Value.toNumber with
  | some n => if Decimal.isFinite n then Decimal.toWord n else otherwise
  | none => otherwise

/-- Places a component absolutely. A random place is the least one of its range. -/
def position : Behavior where
  id := "position"
  category := "layout"
  compatibility := .only [.button, .text, .heading, .image, .card, .container]
  inputs := [.input "moveRandom" .any "Move randomly", .input "setPosition" .object "Set position"]
  outputs := [.output "positionChanged" .object "Position changed"]
  defaults := [("left", .ofInt 0), ("maxLeft", .ofInt 300), ("maxTop", .ofInt 300),
    ("top", .ofInt 0)]
  onAttach _ state := place (intState state "left" 0) (intState state "top" 0) state
  onInput point v _ state :=
    match point with
    | "moveRandom" => move 0 0 state
    | "setPosition" =>
      move (coordinate v "left" (intState state "left" 0))
        (coordinate v "top" (intState state "top" 0)) state
    | _ => (state, [])

/-! ## Counting -/

/-- Counts up and down. -/
def counter : Behavior where
  id := "counter"
  category := "data"
  compatibility := .only [.button, .text, .heading, .input, .card, .container]
  inputs := [.input "increment" .any, .input "decrement" .any, .input "reset" .any]
  outputs := [.output "countChanged" .number]
  defaults := [("count", .ofInt 0), ("initial", .ofInt 0), ("property", .str "count"),
    ("step", .ofInt 1)]
  onAttach _ state :=
    (state, [.setProperty (textState state "property" "count")
      ((Dict.get? state "count").getD (.ofInt 0))])
  onInput point _ _ state :=
    let count := numberState state "count" 0.0
    let step := numberState state "step" 1.0
    let next := match point with
      | "increment" => some (count + step)
      | "decrement" => some (count - step)
      | "reset" => some (numberState state "initial" 0.0)
      | _ => none
    match next with
    | none => (state, [])
    | some n =>
      let v := Value.ofFloat n
      let state := Dict.insert state "count" v
      (state, [.setProperty (textState state "property" "count") v, .emit "countChanged" v])

/-! ## Showing and hiding -/

/-- Shows and hides a component. -/
def visibility : Behavior where
  id := "visibility"
  category := "presentation"
  inputs := [.input "show" .any, .input "hide" .any, .input "toggle" .any]
  outputs := [.output "visibilityChanged" .boolean]
  defaults := [("visible", .bool true)]
  onAttach _ state :=
    (state, [.setHidden !(((Dict.get? state "visible").bind Value.bool?).getD true)])
  onInput point _ owner state :=
    let visible := match point with
      | "show" => some true
      | "hide" => some false
      | "toggle" => some owner.hidden
      | _ => none
    match visible with
    | none => (state, [])
    | some visible =>
      (Dict.insert state "visible" (.bool visible),
        [.setHidden !visible, .emit "visibilityChanged" (.bool visible)])

/-- All built-in behaviors. -/
def behaviors : List Behavior := [toggle, position, counter, visibility]

end WidgetFlow.Standard
