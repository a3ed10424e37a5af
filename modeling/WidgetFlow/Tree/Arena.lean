import WidgetFlow.Tree.Node

/-!
# The arena of nodes

The arena numbers nodes in the order in which they are inserted. The slot of a node that is removed
stays empty, so a number is never used for another node until the arena is cleared.

A node is inserted before its children, so the number of a child is greater than the number of its
parent, and a walk along children ends.
-/

namespace WidgetFlow

/-- The slots of the nodes, the number of the node last inserted under each id, and the numbers of
the nodes without parent, in order. -/
structure Arena where
  slots : List (Option Node) := []
  byId : Dict Nat := []
  roots : List Nat := []

namespace Arena

/-- The node of a number. -/
def get? (a : Arena) (index : Nat) : Option Node := (a.slots[index]?).join

/-- The number that an id stands for. -/
def indexOf? (a : Arena) (id : String) : Option Nat := Dict.get? a.byId id

/-- The node that an id stands for. -/
def find? (a : Arena) (id : String) : Option Node := (a.indexOf? id).bind a.get?

/-- Whether an id stands for a number. -/
def containsId (a : Arena) (id : String) : Bool := Dict.contains a.byId id

/-- How many ids there are. -/
def size (a : Arena) : Nat := a.byId.length

/-- The nodes with their numbers, in the order of the numbers. -/
def live (a : Arena) : List (Nat × Node) :=
  a.slots.zipIdx.filterMap fun (slot, index) => slot.map fun node => (index, node)

/-- Inserts a node, as a root if it has no parent, and gives its number. -/
def insert (a : Arena) (node : Node) : Nat × Arena :=
  let index := a.slots.length
  (index,
    { slots := a.slots ++ [some node]
      byId := Dict.insert a.byId node.id index
      roots := if node.parent?.isNone then a.roots ++ [index] else a.roots })

/-- Changes the node of a number, if there is one. -/
def modify (a : Arena) (index : Nat) (change : Node → Node) : Arena :=
  { a with slots := a.slots.modify index (Option.map change) }

/-- Adds a child to the node of a number, if there is one. -/
def addChild (a : Arena) (index : Nat) (child : Child) : Arena :=
  a.modify index fun node => { node with children := node.children ++ [child] }

/-- The numbers of the children that are nodes; none for a number without node. -/
def childNodes (a : Arena) (index : Nat) : List Nat := ((a.get? index).map (·.childNodes)).getD []

/-- The ids of the children that are nodes. -/
def childIds (a : Arena) (index : Nat) : List String :=
  (a.childNodes index).filterMap fun i => (a.get? i).map (·.id)

/-- The id of the parent of the node of a number. -/
def parentId? (a : Arena) (index : Nat) : Option String :=
  (((a.get? index).bind (·.parent?)).bind a.get?).map (·.id)

/-- How far a walk along children has come: the numbers that wait, the last one next, and the numbers
of the nodes that were visited, in order. -/
structure Walk where
  stack : List Nat
  visited : List Nat := []
deriving DecidableEq, Repr

/-- One round of a walk: the last number leaves the stack. If it has a node it is visited, and its
children go on the stack in reverse, so that the first of them comes next. -/
def advance (a : Arena) (w : Walk) : Walk :=
  match w.stack.getLast? with
  | none => w
  | some index =>
    if (a.get? index).isNone then { w with stack := w.stack.dropLast }
    else
      { stack := w.stack.dropLast ++ (a.childNodes index).reverse
        visited := w.visited ++ [index] }

/-- Goes on with a walk until its stack is empty, for at most `n` rounds. -/
def walk (a : Arena) : Nat → Walk → Walk
  | 0, w => w
  | n + 1, w => if w.stack.isEmpty then w else a.walk n (a.advance w)

/-- The numbers of a node and of all nodes below it, parents before children. Every number is visited
at most once, so the slots bound the walk. -/
def subtree (a : Arena) (index : Nat) : List Nat :=
  (a.walk (a.slots.length + 1) { stack := [index] }).visited

/-- All nodes below roots, parents before children. -/
def order (a : Arena) : List Nat := a.roots.flatMap a.subtree

/-- Empties the slot of a number. -/
def drop (a : Arena) (index : Nat) : Arena :=
  match a.get? index with
  | none => a
  | some node => { a with slots := a.slots.set index none, byId := Dict.erase a.byId node.id }

/-- Takes the child with a number out of the parent of that node, and out of the roots. -/
def detach (a : Arena) (index : Nat) : Arena :=
  let a := match (a.get? index).bind (·.parent?) with
    | some parent => a.modify parent fun node =>
      { node with children := node.children.filter (· != Child.node index) }
    | none => a
  { a with roots := a.roots.filter (· != index) }

/-- Removes a node with all nodes below it, and gives what was removed. -/
def removeSubtree (a : Arena) (index : Nat) : List Node × Arena :=
  let doomed := a.subtree index
  (doomed.filterMap a.get?, doomed.foldl drop (a.detach index))

/-! ## Mounting -/

/-- Inserts planned children below a node, from a position on. -/
def plantBelow (kindOf : String → Kind) (parent : Nat) (parentId : String) :
    Nat → List ChildPlan → Arena → Arena
  | _, [], a => a
  | position, .text content :: rest, a =>
    plantBelow kindOf parent parentId (position + 1) rest (a.addChild parent (.text content))
  | position, .node info children :: rest, a =>
    let id := info.idAt (some parentId) position
    let (index, a) := a.insert (info.toNode id (kindOf info.tag) (some parent))
    let a := plantBelow kindOf index id 0 children a
    plantBelow kindOf parent parentId (position + 1) rest (a.addChild parent (.node index))

/-- Inserts a planned tree at a position among the roots, and gives the number of its root. -/
def plant (kindOf : String → Kind) (a : Arena) (p : NodePlan) (position : Nat) : Nat × Arena :=
  let id := p.info.idAt none position
  let (index, a) := a.insert (p.info.toNode id (kindOf p.info.tag) none)
  (index, plantBelow kindOf index id 0 p.children a)

/-- Inserts planned trees from a position on, and gives the numbers of their roots. -/
def plantAll (kindOf : String → Kind) : Nat → List NodePlan → Arena → List Nat × Arena
  | _, [], a => ([], a)
  | position, p :: rest, a =>
    let (index, a) := a.plant kindOf p position
    let (indices, a) := plantAll kindOf (position + 1) rest a
    (index :: indices, a)

end Arena

end WidgetFlow
