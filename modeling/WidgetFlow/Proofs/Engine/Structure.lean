import WidgetFlow.Proofs.Engine.Flows

/-!
# The structure of an engine is out of reach of handler code

Handlers come from data that nobody has vetted. What they may do to an engine is limited to values:
properties, state, presentation and revisions of instances, the private states of applied behaviors,
the history of events with what was passed on to observers, and the lines printed.

`Engine.SameStructure e e'` lists everything else, and says that it is the same in both engines. It
is read off `Engine.Flows`, so it covers whatever a handler starts on its way: emissions, what
connections carry, the hooks of behaviors and what these emit in turn.

## Main results

* `Flows.sameStructure`: a flow keeps the structure.
* `runHandler_sameStructure`: so does a run of a handler, whether it succeeds or fails.
-/

namespace WidgetFlow

/-- Two logs that keep the same number of events for the same observers. -/
structure EventLog.SameObservers (l l' : EventLog) : Prop where
  capacity : l'.capacity = l.capacity
  subscriptions : l'.subscriptions = l.subscriptions
  nextSubscription : l'.nextSubscription = l.nextSubscription

namespace Engine

variable {e e' : Engine}

/-- Recording keeps the capacity of the log and its observers. -/
theorem Flows.sameObservers (h : Flows e e') : e.events.SameObservers e'.events :=
  ⟨h.kept (·.events.capacity) (fun _ _ => rfl) (fun _ _ => rfl) (fun _ _ => rfl)
      (fun _ _ _ _ => rfl) fun _ _ => rfl,
    h.kept (·.events.subscriptions) (fun _ _ => rfl) (fun _ _ => rfl) (fun _ _ => rfl)
      (fun _ _ _ _ => rfl) fun _ _ => rfl,
    h.kept (·.events.nextSubscription) (fun _ _ => rfl) (fun _ _ => rfl) (fun _ _ => rfl)
      (fun _ _ _ _ => rfl) fun _ _ => rfl⟩

/-- Two engines that differ at most in values. The same ids have instances, with the same kinds and
the same links; the connections are the same, and so are the types, and the behaviors that are known
and applied, all in the same order. -/
structure SameStructure (e e' : Engine) : Prop where
  config : e'.config = e.config
  aliases : e'.aliases = e.aliases
  types : e'.types = e.types
  instances (id : String) :
    Option.Rel Instance.SamePlace (e.instances.get? id) (e'.instances.get? id)
  graph : e'.graph = e.graph
  known : e'.behaviors.behaviors = e.behaviors.behaviors
  applied : e'.behaviors.applied.map Applied.label = e.behaviors.applied.map Applied.label
  nextApplication : e'.behaviors.next = e.behaviors.next
  observers : e.events.SameObservers e'.events
  emitDepth : e'.emitDepth = e.emitDepth

/-- A flow keeps the structure of an engine. -/
theorem Flows.sameStructure (h : Flows e e') : e.SameStructure e' where
  config := h.config
  aliases := h.aliases
  types := h.types
  instances := h.writes.rel
  graph := h.graph
  known := h.behaviors
  applied := h.labels
  nextApplication := h.next
  observers := h.sameObservers
  emitDepth := h.emitDepth

/-- Whatever the code of a handler, the event, the component called itself and the number of steps,
a run of it on an engine keeps the structure of the engine, whether it succeeds or fails. -/
theorem runHandler_sameStructure (h : Script.Handler) (call : Script.Invocation) (e : Engine) :
    e.SameStructure (h.run call e).2 :=
  (runHandler_flows h call e).sameStructure

end Engine

end WidgetFlow
