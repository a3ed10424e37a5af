import WidgetFlow.Tree.Arena
import WidgetFlow.Widget.Catalog
import WidgetFlow.Engine.Host

/-!
# Screens

A screen is a mounted tree over an engine. Its nodes are looked up by a resolver, become instances of
the engine as soon as they are ready, and are rendered with a cache.

This module holds the state of a screen, and why an operation on it fails.
-/

namespace WidgetFlow

/-- Why a kind has no definition. -/
inductive ResolveError where
  | notRegistered (tag : String)
  | failed (tag reason : String)
deriving DecidableEq, Repr

/-- The message of an error. -/
def ResolveError.message : ResolveError → String
  | .notRegistered tag => s!"No component registered for type '{tag}'"
  | .failed tag reason => s!"Resolving type '{tag}' failed: {reason}"

/-- Looks up the definition of a kind; the registry holds the definitions known so far. -/
abbrev Resolver := Registry → Kind → Except ResolveError Definition

/-- The definition in the registry. -/
def Registry.resolve (r : Registry) (kind : Kind) : Except ResolveError Definition :=
  match r.get? kind with
  | some d => .ok d
  | none => .error (.notRegistered kind.tag)

/-- Why an operation on a screen fails. -/
inductive ScreenError where
  | unknownNode (id : String)
  | notReady (id status : String)
  | unknownMethod (node method : String)
  | duplicateId (id : String)
deriving DecidableEq, Repr

/-- The message of an error. -/
def ScreenError.message : ScreenError → String
  | .unknownNode id => s!"Unknown node: {id}"
  | .notReady id status => s!"Node '{id}' is {status} and cannot handle events"
  | .unknownMethod node method => s!"Node '{node}' has no method '{method}'"
  | .duplicateId id => s!"Duplicate node id '{id}' in tree"

/-- What the output of a node depends on: nothing while it waits or has failed, else the texts and
the stamps of its children in order, and at last the revision of its instance. Stamps are compared
as they are, so equal stamps stand for equal children and equal revisions. -/
inductive Stamp where
  | waiting
  | failed
  | text (content : String) (rest : Stamp)
  | child (stamp rest : Stamp)
  | revision (n : Nat)
deriving DecidableEq, Repr

/-- An output kept with its stamp. -/
structure Rendering where
  stamp : Stamp
  output : Output

/-- What rendering remembers: the renderings by number of node, the ids of nodes that are rendered
anew in any case, and how often a definition has rendered. -/
structure RenderMemo where
  kept : List (Nat × Rendering) := []
  stale : List String := []
  count : Nat := 0

/-- The state of a screen. The wires wait for their ends to be ready, and `autoConnectPending` tells
whether automatic connections are still to be made. -/
structure Screen where
  engine : Engine
  resolver : Resolver := Registry.resolve
  arena : Arena := {}
  memo : RenderMemo := {}
  layout? : Option Layout := none
  theme? : Option Value := none
  wires : List Wire := []
  autoConnectPending : Bool := false

namespace Screen

/-- A screen over an engine that has the definitions of the catalog and nothing else. -/
def new (config : Config) : Screen :=
  { engine := Catalog.definitions.foldl Engine.registerType (Engine.new config) }

/-- Records an event. -/
def record (s : Screen) (event : Event) : Screen := { s with engine := s.engine.record event }

/-- The status of the node of an id. -/
def status? (s : Screen) (id : String) : Option Status := (s.arena.find? id).map (·.status)

/-- Whether the node of an id still waits for its definition. -/
def isWaiting (s : Screen) (id : String) : Bool :=
  ((s.status? id).map Status.isWaiting).getD false

end Screen

end WidgetFlow
