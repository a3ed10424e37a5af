import WidgetFlow.Tree.Node

/-!
# The planned nodes of a tree, listed

A plan as the list of its nodes with the ids that they get, every node behind what is below it. What
is checked, planted and compared of a plan is read off this list.
-/

namespace WidgetFlow

/-- Planned nodes with their ids below a parent, from a position on; every node stands behind the
nodes below it. -/
def entriesBelow (parentId : String) : Nat → List ChildPlan → List (String × NodeInfo)
  | _, [] => []
  | position, .text _ :: rest => entriesBelow parentId (position + 1) rest
  | position, .node info children :: rest =>
    let id := info.idAt (some parentId) position
    entriesBelow id 0 children ++ (id, info) :: entriesBelow parentId (position + 1) rest

/-- All nodes of a tree that is mounted at a position, with their ids; every node stands behind the
nodes below it. -/
def NodePlan.entries (p : NodePlan) (position : Nat) : List (String × NodeInfo) :=
  let id := p.info.idAt none position
  entriesBelow id 0 p.children ++ [(id, p.info)]

/-- All nodes of trees that are mounted from a position on. -/
def planEntries (position : Nat) : List NodePlan → List (String × NodeInfo)
  | [] => []
  | p :: rest => p.entries position ++ planEntries (position + 1) rest

end WidgetFlow
