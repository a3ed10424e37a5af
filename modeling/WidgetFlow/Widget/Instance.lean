import WidgetFlow.Widget.Kind
import WidgetFlow.Value.Record

/-!
# Instances

An instance is one live component: its id and kind, the properties it was given, the state it has
taken on, how it is presented, its place in the tree, and the revision at which it last changed.
-/

namespace WidgetFlow

/-- How a component is presented. The classes are sorted. -/
structure Presentation where
  styles : Dict Value := []
  classes : List String := []
  hidden : Bool := false
deriving BEq, Inhabited

/-- A live component. -/
structure Instance where
  id : String
  kind : Kind
  properties : Dict Value
  state : Dict Value := []
  presentation : Presentation := {}
  parent : Option String := none
  children : List String := []
  revision : Nat := 0
deriving BEq, Inhabited

/-- What an update changes. The id and the kind of an instance never change, whatever an update
says. -/
structure InstanceUpdate where
  id : Option String := none
  kind : Option Kind := none
  properties : Option (Dict Value) := none
  state : Option (Dict Value) := none
  presentation : Option Presentation := none
  parent : Option (Option String) := none
  children : Option (List String) := none

namespace Instance

/-- The effective property: the state goes before the properties. -/
def effective (i : Instance) (key : String) : Option Value :=
  (Dict.get? i.state key).orElse fun _ => Dict.get? i.properties key

/-- All effective properties. -/
def effectiveAll (i : Instance) : Dict Value := Dict.union i.properties i.state

end Instance

/-- The presentation that a value describes. -/
def Presentation.ofValue? (v : Value) : Option Presentation := do
  let given ← v.record? ["styles", "classes", "hidden"]
  let styles ← Value.required given "styles" Value.dict?
  let classes ← Value.required given "classes" (Value.listOf? Value.text?)
  let hidden ← Value.required given "hidden" Value.bool?
  return { styles, classes := classes.foldl (fun cs c => insertName c cs) [], hidden }

/-- The instance that a value describes, every field given except perhaps the parent. -/
def Instance.ofValue? (v : Value) : Option Instance := do
  let given ← v.record?
    ["id", "type", "properties", "state", "presentation", "parent", "children", "revision"]
  let id ← Value.required given "id" Value.text?
  let tag ← Value.required given "type" Value.text?
  let properties ← Value.required given "properties" Value.dict?
  let state ← Value.required given "state" Value.dict?
  let presentation ← Value.required given "presentation" Presentation.ofValue?
  let parent ← Value.optional given "parent" Value.text?
  let children ← Value.required given "children" (Value.listOf? Value.text?)
  let revision ← Value.required given "revision" Value.count?
  return { id, kind := .ofTag tag, properties, state, presentation, parent, children, revision }

/-- The update that a value describes. A field that cannot be read changes nothing, but a parent that
is given changes in any case. -/
def InstanceUpdate.ofValue (v : Value) : InstanceUpdate :=
  { id := (v.field? "id").bind Value.text?
    kind := ((v.field? "type").bind Value.text?).map .ofTag
    properties := (v.field? "properties").bind Value.dict?
    state := (v.field? "state").bind Value.dict?
    presentation := (v.field? "presentation").bind Presentation.ofValue?
    parent := (v.field? "parent").map Value.text?
    children := (v.field? "children").bind (Value.listOf? Value.text?) }

/-- A presentation as a value. -/
def Presentation.toValue (p : Presentation) : Value :=
  .obj [("classes", .arr (p.classes.map .str)), ("hidden", .bool p.hidden),
    ("styles", .obj p.styles)]

/-- An instance as a value. -/
def Instance.toValue (i : Instance) : Value :=
  .obj [("children", .arr (i.children.map .str)), ("id", .str i.id),
    ("parent", (i.parent.map Value.str).getD .null), ("presentation", i.presentation.toValue),
    ("properties", .obj i.properties), ("revision", .ofNat i.revision), ("state", .obj i.state),
    ("type", .str i.kind.tag)]

end WidgetFlow
