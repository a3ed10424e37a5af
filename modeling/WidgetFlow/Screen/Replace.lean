import WidgetFlow.Screen.Mount

/-!
# Removing and replacing

A node is removed with everything below it, in the tree and in the engine. A tree or an application
may also be replaced as a whole. Then an instance stays if its id is planned again with the same
kind; it gets the planned properties that differ from those planned before, and keeps everything
else. All other instances of the old tree are removed.
-/

namespace WidgetFlow.Screen

/-! ## Removing -/

/-- Removes a node with everything below it, and tells whether there was one. -/
def removeNode (s : Screen) (id : String) : Bool × Screen :=
  match s.arena.indexOf? id with
  | none => (false, s)
  | some index =>
    let parentId? := s.arena.parentId? index
    let (removed, arena) := s.arena.removeSubtree index
    let ids := removed.map (·.id)
    let engine := ids.foldl (fun e id => (e.removeInstance id).2) s.engine
    let memo := { s.memo with
      kept := s.memo.kept.filter fun r => (arena.get? r.1).isSome
      stale := s.memo.stale.filter fun id => !ids.contains id }
    let engine :=
      match parentId?.bind fun p => (arena.indexOf? p).map fun index => (p, index) with
      | some (parentId, parent) =>
        (engine.updateInstance parentId { children := some (arena.childIds parent) }).2
      | none => engine
    (true, { s with arena, engine, memo })

/-- Forgets the tree and what was rendered. The instances stay. -/
def reset (s : Screen) : Screen :=
  { s with arena := {}, memo := { s.memo with kept := [], stale := [] } }

/-- Removes everything that is mounted. -/
def unmount (s : Screen) : Screen :=
  let ids := s.arena.live.map (·.2.id)
  let s := { s with engine := ids.foldl (fun e id => (e.removeInstance id).2) s.engine }
  { s.reset with layout? := none, theme? := none, wires := [], autoConnectPending := false }

/-! ## Replacing -/

/-- Writes the planned properties that differ from those planned before. -/
def updateDeclared (declared planned : Dict Value) (id : String) (e : Engine) : Engine :=
  planned.foldl (fun e (key, v) =>
    if Dict.get? declared key == some v then e else (View.setProperty e id key v).2) e

/-- Brings the instance of a mounted node in line with planned nodes: it is updated if its id is
planned with the same kind, and removed otherwise. -/
def reconcileNode (planned : Dict (Kind × Dict Value)) (e : Engine) (node : Node) : Engine :=
  match Dict.get? planned node.id with
  | some (kind, properties) =>
    if kind = node.kind then updateDeclared node.declared properties node.id e
    else (e.removeInstance node.id).2
  | none => (e.removeInstance node.id).2

mutual
/-- Notes the kind and the properties of a planned node at a position below a parent under its id,
after those of all nodes below it. A text has none. -/
def flatten (kindOf : String → Kind) (parentId? : Option String) (position : Nat) :
    ChildPlan → Dict (Kind × Dict Value) → Dict (Kind × Dict Value)
  | .text _, planned => planned
  | .node info children, planned =>
    let id := info.idAt parentId? position
    Dict.insert (flattenEach kindOf (some id) 0 children planned) id
      (kindOf info.tag, info.properties)
/-- Notes the kinds and the properties of planned children, from a position on. -/
def flattenEach (kindOf : String → Kind) (parentId? : Option String) :
    Nat → List ChildPlan → Dict (Kind × Dict Value) → Dict (Kind × Dict Value)
  | _, [], planned => planned
  | position, plan :: rest, planned =>
    flattenEach kindOf parentId? (position + 1) rest
      (flatten kindOf parentId? position plan planned)
end

/-- The planned nodes of trees mounted from the first position on: their kinds and properties. -/
def plannedNodes (kindOf : String → Kind) (plans : List NodePlan) : Dict (Kind × Dict Value) :=
  flattenEach kindOf none 0 (plans.map NodePlan.asChild) []

/-- Brings the instances of all mounted nodes in line with planned trees. -/
def reconcile (s : Screen) (plans : List NodePlan) : Screen :=
  let planned := plannedNodes s.engine.kindOf plans
  { s with engine := (s.arena.live.map (·.2)).foldl (reconcileNode planned) s.engine }

/-- Replaces the mounted tree, and gives the number of the new root. Layout, wires and theme stay. -/
def replaceTree (s : Screen) (plan : NodePlan) : Except ScreenError Nat × Screen :=
  match checkIds (fun _ => false) 0 [plan] with
  | .error e => (.error e, s)
  | .ok _ =>
    let s := (s.reconcile [plan]).reset
    let (index, arena) := s.arena.plant s.engine.kindOf plan 0
    (.ok index, queue { s with arena })

/-- Replaces the mounted application. A theme stays if the new application has none. -/
def replaceApp (s : Screen) (app : AppPlan) : Except ScreenError (List Nat) × Screen :=
  match checkIds (fun _ => false) 0 app.components with
  | .error e => (.error e, s)
  | .ok _ => { (s.reconcile app.components).reset with layout? := none, wires := [] }.mountApp app

end WidgetFlow.Screen
