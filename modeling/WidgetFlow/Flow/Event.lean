import WidgetFlow.Value.Basic

/-!
# Events

What happens in an engine is recorded as events in a log that keeps the latest ones, up to its
capacity. Observers subscribe to kinds of events, and every event recorded is passed to those that
want its kind, in the order of their subscriptions. The log lists what was passed on in `calls`,
until somebody takes it.
-/

namespace WidgetFlow

/-- The kinds of events. -/
inductive EventKind where
  | componentRegistered | instanceCreated | instanceUpdated | instanceRemoved
  | connectionCreated | connectionRemoved | connectionDataSent | connectionDataReceived
  | behaviorApplied | behaviorRemoved
  | userAction | methodInvoked | handlerFailed
deriving DecidableEq, Repr, Inhabited

namespace EventKind

/-- The kinds of events with their names. -/
def table : List (String × EventKind) :=
  [("ComponentRegistered", .componentRegistered), ("InstanceCreated", .instanceCreated),
   ("InstanceUpdated", .instanceUpdated), ("InstanceRemoved", .instanceRemoved),
   ("ConnectionCreated", .connectionCreated), ("ConnectionRemoved", .connectionRemoved),
   ("ConnectionDataSent", .connectionDataSent),
   ("ConnectionDataReceived", .connectionDataReceived),
   ("BehaviorApplied", .behaviorApplied), ("BehaviorRemoved", .behaviorRemoved),
   ("UserAction", .userAction), ("MethodInvoked", .methodInvoked),
   ("HandlerFailed", .handlerFailed)]

/-- The name of a kind of events. -/
def name : EventKind → String
  | .componentRegistered => "ComponentRegistered"
  | .instanceCreated => "InstanceCreated"
  | .instanceUpdated => "InstanceUpdated"
  | .instanceRemoved => "InstanceRemoved"
  | .connectionCreated => "ConnectionCreated"
  | .connectionRemoved => "ConnectionRemoved"
  | .connectionDataSent => "ConnectionDataSent"
  | .connectionDataReceived => "ConnectionDataReceived"
  | .behaviorApplied => "BehaviorApplied"
  | .behaviorRemoved => "BehaviorRemoved"
  | .userAction => "UserAction"
  | .methodInvoked => "MethodInvoked"
  | .handlerFailed => "HandlerFailed"

/-- The kind of events of a name. -/
def ofName? (name : String) : Option EventKind := table.lookup name

end EventKind

/-- An event: its kind, the component it is about, perhaps a connection, and more about it. -/
structure Event where
  kind : EventKind
  component : String
  connection? : Option String := none
  payload : Value := .null
deriving BEq, Inhabited

/-- An event as a value. -/
def Event.toValue (e : Event) : Value :=
  .obj [("component_id", .str e.component),
    ("connection_id", (e.connection?.map Value.str).getD .null), ("kind", .str e.kind.name),
    ("payload", e.payload)]

/-- A subscription: its number, and the kinds of events it wants, no kinds meaning all. -/
structure Subscription where
  id : Nat
  kinds : List EventKind
deriving DecidableEq, Repr

/-- Whether a subscription wants events of a kind. -/
def Subscription.wants (s : Subscription) (kind : EventKind) : Bool :=
  s.kinds.isEmpty || s.kinds.contains kind

/-- A log of events. The history starts with the oldest event, and `calls` lists the events passed
to observers, with the number of the subscription. -/
structure EventLog where
  capacity : Nat
  history : List Event := []
  subscriptions : List Subscription := []
  nextSubscription : Nat := 0
  calls : List (Nat × Event) := []
deriving Inhabited

namespace EventLog

/-- An empty log. Its capacity is at least 1. -/
def empty (capacity : Nat) : EventLog := { capacity := max capacity 1 }

/-- Passes an event to the observers that want it, and adds it to the history, from which the oldest
event goes if there is no room. -/
def record (log : EventLog) (e : Event) : EventLog :=
  let wanting := log.subscriptions.filter (·.wants e.kind)
  let kept := if log.capacity ≤ log.history.length then log.history.tail else log.history
  { log with
    history := kept ++ [e]
    calls := log.calls ++ wanting.map fun s => (s.id, e) }

/-- Subscribes to kinds of events and gives the number of the subscription. -/
def subscribe (log : EventLog) (kinds : List EventKind) : Nat × EventLog :=
  (log.nextSubscription,
    { log with subscriptions := log.subscriptions ++ [⟨log.nextSubscription, kinds⟩]
               nextSubscription := log.nextSubscription + 1 })

/-- Ends a subscription, and tells whether there was one of this number. -/
def unsubscribe (log : EventLog) (id : Nat) : Bool × EventLog :=
  let rest := log.subscriptions.filter (·.id != id)
  (rest.length != log.subscriptions.length, { log with subscriptions := rest })

/-- The events of a kind in the history. -/
def ofKind (log : EventLog) (kind : EventKind) : List Event := log.history.filter (·.kind = kind)

/-- Forgets the history. -/
def clear (log : EventLog) : EventLog := { log with history := [] }

/-- The log with no calls listed. -/
def takeCalls (log : EventLog) : List (Nat × Event) × EventLog :=
  (log.calls, { log with calls := [] })

end EventLog

end WidgetFlow
