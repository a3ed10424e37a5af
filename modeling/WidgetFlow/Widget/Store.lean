import WidgetFlow.Widget.Instance
import WidgetFlow.Value.Merge
import WidgetFlow.Script.Host

/-!
# The store of instances

The store holds the live instances by id and a clock. Every change of an instance takes the next
tick of the clock as its revision, so a revision belongs to one change of one instance.

The store can be read and written as a view. There the effective property is what counts: writing a
property also drops the state of that name, which would hide it.
-/

namespace WidgetFlow

/-- The live instances by id, and the tick of the last change. -/
structure Store where
  instances : Dict Instance := []
  clock : Nat := 0
deriving BEq, Inhabited

namespace Store

/-- The instance of an id. -/
def get? (s : Store) (id : String) : Option Instance := Dict.get? s.instances id

/-- Whether there is an instance of an id. -/
def contains (s : Store) (id : String) : Bool := Dict.contains s.instances id

/-- The ids in order. -/
def ids (s : Store) : List String := Dict.keys s.instances

/-- All instances in the order of their ids. -/
def all (s : Store) : List Instance := Dict.values s.instances

/-- Puts an instance under its id, in place of an earlier one. -/
def register (s : Store) (i : Instance) : Store :=
  let tick := s.clock + 1
  ⟨Dict.insert s.instances i.id { i with revision := tick }, tick⟩

/-- Changes the instance of an id and gives it the next revision; tells whether there was one. -/
def mutate (s : Store) (id : String) (change : Instance → Instance) : Bool × Store :=
  match s.get? id with
  | none => (false, s)
  | some i =>
    let tick := s.clock + 1
    (true, ⟨Dict.insert s.instances id { change i with revision := tick }, tick⟩)

/-- What an update makes of an instance: the state is merged, everything else replaced. -/
def applyUpdate (u : InstanceUpdate) (i : Instance) : Instance :=
  { i with
    state := (u.state.map (Value.mergeFields i.state)).getD i.state
    properties := u.properties.getD i.properties
    presentation := u.presentation.getD i.presentation
    parent := u.parent.getD i.parent
    children := u.children.getD i.children }

/-- Updates the instance of an id. -/
def update (s : Store) (id : String) (u : InstanceUpdate) : Bool × Store :=
  s.mutate id (applyUpdate u)

/-- Removes the instance of an id. -/
def remove (s : Store) (id : String) : Option Instance × Store :=
  match s.get? id with
  | none => (none, s)
  | some i => (some i, { s with instances := Dict.erase s.instances id })

/-- Removes all instances. The clock goes on. -/
def clear (s : Store) : Store := { s with instances := [] }

/-- The property that an instance was given. -/
def property (s : Store) (id key : String) : Option Value :=
  (s.get? id).bind fun i => Dict.get? i.properties key

/-- The state of an instance under a key. -/
def stateValue (s : Store) (id key : String) : Option Value :=
  (s.get? id).bind fun i => Dict.get? i.state key

/-- Writes a property. -/
def setProperty (s : Store) (id key : String) (v : Value) : Bool × Store :=
  s.mutate id fun i => { i with properties := Dict.insert i.properties key v }

/-- Writes the state under a key. -/
def setStateValue (s : Store) (id key : String) (v : Value) : Bool × Store :=
  s.mutate id fun i => { i with state := Dict.insert i.state key v }

/-- Removes the state under a key and gives it; nothing changes if there is none. -/
def removeStateValue (s : Store) (id key : String) : Option Value × Store :=
  match s.stateValue id key with
  | none => (none, s)
  | some v => (some v, (s.mutate id fun i => { i with state := Dict.erase i.state key }).2)

/-- Changes how an instance is presented. -/
def present (s : Store) (id : String) (change : Presentation → Presentation) : Bool × Store :=
  s.mutate id fun i => { i with presentation := change i.presentation }

/-- Sets a style; null removes it. -/
def setStyle (s : Store) (id property : String) (v : Value) : Bool × Store :=
  s.present id fun p =>
    { p with styles := if v.isNull then Dict.erase p.styles property
        else Dict.insert p.styles property v }

/-- Adds a class. -/
def addClass (s : Store) (id name : String) : Bool × Store :=
  s.present id fun p => { p with classes := insertName name p.classes }

/-- Removes a class. -/
def removeClass (s : Store) (id name : String) : Bool × Store :=
  s.present id fun p => { p with classes := removeName name p.classes }

/-- Hides or shows an instance. -/
def setHidden (s : Store) (id : String) (hidden : Bool) : Bool × Store :=
  s.present id fun p => { p with hidden }

end Store

instance : View Store where
  property s id key := (s.get? id).bind (·.effective key)
  setProperty s id key v :=
    match s.setProperty id key v with
    | (false, s) => (false, s)
    | (true, s) => (true, (s.removeStateValue id key).2)
  stateValue := Store.stateValue
  style s id property := (s.get? id).bind fun i => Dict.get? i.presentation.styles property
  setStyle := Store.setStyle
  addClass := Store.addClass
  removeClass := Store.removeClass
  setHidden := Store.setHidden
  isHidden s id := (s.get? id).map (·.presentation.hidden)
  properties s id := (s.get? id).map (·.effectiveAll)

end WidgetFlow
