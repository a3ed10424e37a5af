import WidgetFlow.Widget.Store
import WidgetFlow.Widget.Point
import WidgetFlow.Output.Basic

/-!
# Definitions and the registry

A definition says what components of one kind are like: their points, their default properties, how
an instance is made and how it is rendered. The registry holds one definition for each kind.
-/

namespace WidgetFlow

/-- What a component is rendered from: the instance, its properties over the defaults of its
definition, its presentation, and the output of its children. -/
structure RenderContext where
  target : Instance
  properties : Dict Value
  styles : Dict Value
  classes : List String
  hidden : Bool
  children : List Output

/-- An element with everything the context holds. -/
def RenderContext.toElement (ctx : RenderContext) (tag : String) : Output :=
  .element ctx.target.id tag ctx.properties ctx.styles ctx.classes ctx.hidden ctx.children

/-- A definition of a kind of component. -/
structure Definition where
  kind : Kind
  capabilities : List Capability := []
  defaults : Dict Value := []
  /-- Makes an instance from an id, the kind and the properties. -/
  instantiate? : Option (String → Kind → Dict Value → Instance) := none
  /-- Renders an instance. -/
  render? : Option (RenderContext → Output) := none
deriving Inhabited

namespace Definition

/-- All points in order. -/
def points (d : Definition) : List Point := d.capabilities.flatMap (·.points)

/-- The first point of an id. -/
def point? (d : Definition) (id : String) : Option Point := d.points.find? (·.id = id)

/-- The state that the defaults of points give a new instance with the given properties. -/
def initialState (d : Definition) (properties : Dict Value) : Dict Value :=
  d.points.foldl (fun state p =>
    if Dict.contains properties p.id then state
    else
      match p.default? with
      | some v => Dict.insert state p.id v
      | none => state) []

/-- A new instance. -/
def instantiate (d : Definition) (id : String) (properties : Dict Value) : Instance :=
  match d.instantiate? with
  | some make => make id d.kind properties
  | none => { id, kind := d.kind, properties, state := d.initialState properties }

/-- The output of an instance; by default an element with the tag of its kind. -/
def render (d : Definition) (ctx : RenderContext) : Output :=
  match d.render? with
  | some render => render ctx
  | none => ctx.toElement d.kind.tag

end Definition

/-- The definitions, at most one for each kind, in the order of their first registration. -/
structure Registry where
  definitions : List Definition := []
deriving Inhabited

namespace Registry

/-- The definition of a kind. -/
def get? (r : Registry) (kind : Kind) : Option Definition :=
  r.definitions.find? (·.kind = kind)

/-- Whether a kind has a definition. -/
def contains (r : Registry) (kind : Kind) : Bool := (r.get? kind).isSome

/-- Registers a definition, in place of an earlier one of its kind. -/
def register (r : Registry) (d : Definition) : Registry :=
  if r.contains d.kind then ⟨r.definitions.map fun old => if old.kind = d.kind then d else old⟩
  else ⟨r.definitions ++ [d]⟩

/-- The tags of the kinds that have a definition, sorted. -/
def tags (r : Registry) : List String :=
  (r.definitions.map (·.kind.tag)).mergeSort (· ≤ ·)

/-- Makes an instance of a kind and puts it into the store; gives the id that the instance has. -/
def instantiate (r : Registry) (kind : Kind) (id : String) (properties : Dict Value) (s : Store) :
    Option (String × Store) :=
  (r.get? kind).map fun d =>
    let i := d.instantiate id (Dict.union d.defaults properties)
    (i.id, s.register i)

end Registry

end WidgetFlow
