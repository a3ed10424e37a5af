import WidgetFlow.Engine.Flow

/-!
# The engine as a host

An engine is viewed through its store, and handler code runs on it: selectors look at its
instances, and an emission that fails does not stop the handler.
-/

namespace WidgetFlow

namespace Engine

/-- A write to the store of an engine. -/
def writing (e : Engine) (result : Bool × Store) : Bool × Engine :=
  (result.1, { e with instances := result.2 })

/-- The ids of the instances that a selector matches. -/
def select (e : Engine) : Script.Selector → List String
  | .self => []
  | .id id => if e.instances.contains id then [id] else []
  | .cssClass name =>
    (e.instances.all.filter fun i => i.presentation.classes.contains name).map (·.id)
  | .tag tag =>
    let kind := e.kindOf tag
    (e.instances.all.filter fun i => i.kind = kind).map (·.id)

end Engine

instance : View Engine where
  property e := View.property e.instances
  setProperty e id key v := e.writing (View.setProperty e.instances id key v)
  stateValue e := View.stateValue e.instances
  style e := View.style e.instances
  setStyle e id property v := e.writing (View.setStyle e.instances id property v)
  addClass e id name := e.writing (View.addClass e.instances id name)
  removeClass e id name := e.writing (View.removeClass e.instances id name)
  setHidden e id hidden := e.writing (View.setHidden e.instances id hidden)
  isHidden e := View.isHidden e.instances
  properties e := View.properties e.instances

instance : Script.Host Engine where
  select := Engine.select
  emit e component point v := e.emitSilently ⟨component, point⟩ v
  log e line := { e with console := e.console ++ [line] }

end WidgetFlow
