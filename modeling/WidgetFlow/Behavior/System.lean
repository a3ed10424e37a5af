import WidgetFlow.Behavior.Standard

/-!
# The behavior system

The behaviors that are known, and the ones applied to components, each with its state. Applied
behaviors are listed in the order in which they were applied, and named by a number that is never
used again.
-/

namespace WidgetFlow

/-- Why a behavior is not applied or not removed. -/
inductive BehaviorError where
  | unknownBehavior (id : String)
  | unknownComponent (id : String)
  | incompatible (behavior component : String) (kind : Kind)
  | unknownApplication (id : String)
deriving DecidableEq, Repr

/-- The message of an error. -/
def BehaviorError.message : BehaviorError → String
  | .unknownBehavior id => s!"Unknown behavior: {id}"
  | .unknownComponent id => s!"Unknown component: {id}"
  | .incompatible behavior component kind =>
    s!"Behavior '{behavior}' cannot be applied to '{component}' of type '{kind.tag}'"
  | .unknownApplication id => s!"Unknown applied behavior: {id}"

/-- A behavior applied to a component. -/
structure Applied where
  id : String
  behavior : String
  component : String
  state : Dict Value
deriving BEq, Inhabited

/-- What a hook asks for: effects on a component. -/
structure HookOutcome where
  component : String
  effects : List Effect
deriving BEq, Inhabited

/-- The known behaviors by id, the applied ones, and the number of the next application. -/
structure BehaviorSystem where
  behaviors : Dict Behavior := []
  applied : List Applied := []
  next : Nat := 0

namespace BehaviorSystem

/-- The id of the application with a number. -/
def idOf (n : Nat) : String := s!"a{n}"

/-- Registers a behavior, in place of an earlier one of its id. -/
def register (b : BehaviorSystem) (behavior : Behavior) : BehaviorSystem :=
  { b with behaviors := Dict.insert b.behaviors behavior.id behavior }

/-- The system with the built-in behaviors. -/
def standard : BehaviorSystem := Standard.behaviors.foldl register {}

/-- The behavior of an id. -/
def get? (b : BehaviorSystem) (id : String) : Option Behavior := Dict.get? b.behaviors id

/-- The behaviors that may be applied to a kind, by their ids. -/
def behaviorsFor (b : BehaviorSystem) (kind : Kind) : List Behavior :=
  (Dict.values b.behaviors).filter (·.compatibility.allows kind)

/-- Applies a behavior to a component of a store. -/
def apply (b : BehaviorSystem) (component behavior : String) (options : BehaviorOptions)
    (s : Store) : Except BehaviorError (String × HookOutcome × BehaviorSystem) :=
  match b.get? behavior with
  | none => .error (.unknownBehavior behavior)
  | some found =>
    match s.get? component with
    | none => .error (.unknownComponent component)
    | some i =>
      if found.compatibility.allows i.kind then
        let (state, effects) := found.onAttach (.of s component) (options.seed found.defaults)
        let id := idOf b.next
        .ok (id, ⟨component, effects⟩,
          { b with applied := b.applied ++ [⟨id, behavior, component, state⟩]
                   next := b.next + 1 })
      else .error (.incompatible behavior component i.kind)

/-- Removes an applied behavior. -/
def unapply (b : BehaviorSystem) (id : String) (s : Store) :
    Except BehaviorError (HookOutcome × BehaviorSystem) :=
  match b.applied.find? (·.id = id) with
  | none => .error (.unknownApplication id)
  | some a =>
    let effects := match b.get? a.behavior with
      | some behavior => (behavior.onDetach (.of s a.component) a.state).2
      | none => []
    .ok (⟨a.component, effects⟩, { b with applied := b.applied.filter (·.id != id) })

/-- Drops what is applied to a component without running any hook, and counts it. -/
def detachAll (b : BehaviorSystem) (component : String) : Nat × BehaviorSystem :=
  let rest := b.applied.filter (·.component != component)
  (b.applied.length - rest.length, { b with applied := rest })

/-- The behavior of an application, if a value at a point of a component is for it. -/
def receiver? (b : BehaviorSystem) (component point : String) (a : Applied) : Option Behavior :=
  if a.component = component then (b.get? a.behavior).filter (·.hasInput point) else none

/-- Runs the hooks of all applied behaviors of a component that have an input point of an id, in
order, each on its own state. -/
def deliver (b : BehaviorSystem) (component point : String) (v : Value) (s : Store) :
    List HookOutcome × BehaviorSystem :=
  let results := b.applied.map fun a =>
    match b.receiver? component point a with
    | none => (a, none)
    | some behavior =>
      let (state, effects) := behavior.onInput point v (.of s component) a.state
      ({ a with state }, some (HookOutcome.mk component effects))
  (results.filterMap (·.2), { b with applied := results.map (·.1) })

/-- What is applied to a component. -/
def attached (b : BehaviorSystem) (component : String) : List Applied :=
  b.applied.filter (·.component = component)

/-- The application of an id. -/
def application? (b : BehaviorSystem) (id : String) : Option Applied :=
  b.applied.find? (·.id = id)

/-- The points that the behaviors applied to a component add to it. -/
def pointsFor (b : BehaviorSystem) (component : String) : List Point :=
  (b.attached component).flatMap fun a => ((b.get? a.behavior).map (·.points)).getD []

/-- The first such point of an id. -/
def pointFor? (b : BehaviorSystem) (component point : String) : Option Point :=
  (b.pointsFor component).find? (·.id = point)

/-- Drops all that is applied. -/
def clearApplied (b : BehaviorSystem) : BehaviorSystem := { b with applied := [] }

end BehaviorSystem

end WidgetFlow
