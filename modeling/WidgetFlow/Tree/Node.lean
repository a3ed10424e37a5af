import WidgetFlow.Tree.Plan
import WidgetFlow.Widget.Definition
import WidgetFlow.Script.Shape

/-!
# Nodes

A node is what became of one node of a plan: its id, its kind, its compiled handlers, its status on
the way to a definition, and its place among the other nodes, which are named by their numbers.
-/

namespace WidgetFlow

/-- How far a node has come: not yet looked up, waiting for its definition, ready with it, or failed
for a reason. -/
inductive Status where
  | unresolved
  | loading
  | ready (definition : Definition)
  | error (reason : String)

namespace Status

/-- The name of a status. -/
def name : Status → String
  | .unresolved => "unresolved"
  | .loading => "loading"
  | .ready _ => "ready"
  | .error _ => "error"

/-- Whether a node is ready. -/
def isReady : Status → Bool
  | .ready _ => true
  | _ => false

/-- Whether a node still waits for its definition. -/
def isWaiting : Status → Bool
  | .unresolved => true
  | .loading => true
  | _ => false

/-- The definition of a node that is ready. -/
def definition? : Status → Option Definition
  | .ready d => some d
  | _ => none

end Status

/-- Handler code of a node, compiled when the node is mounted. Code that does not compile has no
handler, and running it does nothing. -/
structure NodeCode where
  source : String
  handler? : Option Script.Handler
  affected : List String

/-- Planned code, compiled. -/
def CodePlan.compile (c : CodePlan) : NodeCode :=
  ⟨c.code, (Script.compile c.code).toOption, c.affected⟩

/-- A child of a node: the number of a node, or a text. -/
inductive Child where
  | node (index : Nat)
  | text (content : String)
deriving DecidableEq, Repr

/-- The number of a child that is a node. -/
def Child.node? : Child → Option Nat
  | .node index => some index
  | .text _ => none

/-- A mounted node. The tag is the one of the plan, and `declared` holds the planned properties. -/
structure Node where
  id : String
  tag : String
  kind : Kind
  declared : Dict Value := []
  styles : Dict Value := []
  events : Dict NodeCode := []
  methods : Dict NodeCode := []
  region? : Option String := none
  behaviors : List BehaviorPlan := []
  status : Status := .unresolved
  parent? : Option Nat := none
  children : List Child := []

namespace Node

/-- The numbers of the children that are nodes, in order. -/
def childNodes (n : Node) : List Nat := n.children.filterMap Child.node?

end Node

/-! ## From plans -/

/-- The id of a node that a plan leaves unnamed: where it stands below its parent, and its tag. -/
def placeId (parentId? : Option String) (position : Nat) (tag : String) : String :=
  let parent := parentId?.getD "root"
  s!"{parent}/{tag}-{position}"

namespace NodeInfo

/-- The id of a planned node at its place. -/
def idAt (info : NodeInfo) (parentId? : Option String) (position : Nat) : String :=
  info.id?.getD (placeId parentId? position info.tag)

/-- The node of a plan at its place, without children and not yet looked up. -/
def toNode (info : NodeInfo) (id : String) (kind : Kind) (parent? : Option Nat) : Node :=
  { id, tag := info.tag, kind, declared := info.properties, styles := info.styles
    events := Dict.mapValues CodePlan.compile info.events
    methods := Dict.mapValues CodePlan.compile info.methods
    region? := info.region?, behaviors := info.behaviors, parent? }

end NodeInfo

end WidgetFlow
