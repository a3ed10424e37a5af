import WidgetFlow.Widget.Store
import WidgetFlow.Flow.Transform

/-!
# The connection graph

Connections lead from a point of one component to a point of another and may map what they carry.
The graph numbers its connections in the order in which they are made, and names each by its
number; an index leads from a name to the number. Numbers are never used again.
-/

namespace WidgetFlow

/-- A point of a component. -/
structure Endpoint where
  component : String
  point : String
deriving DecidableEq, Repr, Inhabited

/-- A connection. -/
structure Connection where
  id : String
  source : Endpoint
  target : Endpoint
  transform? : Option Transform

namespace Connection

/-- What a connection carries for a value, with the lines printed on the way. -/
def carry (c : Connection) (v : Value) : Value × List String :=
  match c.transform? with
  | some t => t.apply v
  | none => (v, [])

/-- Whether a connection starts or ends at a component. -/
def touches (c : Connection) (component : String) : Bool :=
  c.source.component = component || c.target.component = component

end Connection

/-- A value that arrived over a connection. -/
structure Delivery where
  connectionId : String
  target : Endpoint
  value : Value
deriving BEq, Inhabited

/-- The connections by number, the numbers by id, and the next number. -/
structure Graph where
  connections : List (Nat × Connection) := []
  index : Dict Nat := []
  next : Nat := 0

namespace Graph

/-- The id of the connection with a number. -/
def idOf (n : Nat) : String := s!"c{n}"

/-- Adds a connection and gives its id. -/
def connect (g : Graph) (source target : Endpoint) (transform? : Option Transform) :
    String × Graph :=
  let id := idOf g.next
  (id, { connections := g.connections ++ [(g.next, { id, source, target, transform? })]
         index := Dict.insert g.index id g.next
         next := g.next + 1 })

/-- All connections in the order in which they were made. -/
def all (g : Graph) : List Connection := g.connections.map (·.2)

/-- How many connections there are. -/
def size (g : Graph) : Nat := g.connections.length

/-- The connection of an id. -/
def get? (g : Graph) (id : String) : Option Connection :=
  (Dict.get? g.index id).bind fun n => (g.connections.find? (·.1 = n)).map (·.2)

/-- Removes the connection of an id, and tells whether there was one. -/
def disconnect (g : Graph) (id : String) : Bool × Graph :=
  match Dict.get? g.index id with
  | none => (false, g)
  | some n =>
    (true, { g with connections := g.connections.filter (·.1 != n)
                    index := Dict.erase g.index id })

/-- The connections that start at a component, and at a point of it if one is given. -/
def outgoing (g : Graph) (component : String) (point? : Option String) : List Connection :=
  g.all.filter fun c => c.source.component = component &&
    (point?.map fun p => decide (c.source.point = p)).getD true

/-- The connections that end at a component, and at a point of it if one is given. -/
def incoming (g : Graph) (component : String) (point? : Option String) : List Connection :=
  g.all.filter fun c => c.target.component = component &&
    (point?.map fun p => decide (c.target.point = p)).getD true

/-- Whether a connection leads from one point to another. -/
def exists? (g : Graph) (source target : Endpoint) : Bool :=
  g.all.any fun c => c.source = source && c.target = target

/-- Removes all connections that touch a component, and counts them. -/
def removeFor (g : Graph) (component : String) : Nat × Graph :=
  let doomed := g.connections.filter (·.2.touches component)
  (doomed.length,
    { g with connections := g.connections.filter fun c => !c.2.touches component
             index := doomed.foldl (fun index c => Dict.erase index c.2.id) g.index })

/-- Removes all connections. -/
def clear (g : Graph) : Graph := { g with connections := [], index := [] }

/-- Carries a value from a point over the connections that start there, in order: each puts what it
carries into the state of its target under the name of the target point. A connection whose target
is not in the store carries nothing. -/
def propagate (g : Graph) (source : Endpoint) (v : Value) (s : Store) :
    List Delivery × Store × List String :=
  (g.outgoing source.component (some source.point)).foldl (fun (deliveries, s, lines) c =>
    if s.contains c.target.component then
      let (carried, printed) := c.carry v
      (deliveries ++ [⟨c.id, c.target, carried⟩],
        (s.setStateValue c.target.component c.target.point carried).2, lines ++ printed)
    else (deliveries, s, lines)) ([], s, [])

end Graph

end WidgetFlow
