import WidgetFlow.Screen.Basic
import WidgetFlow.Value.Merge
import WidgetFlow.Output.Markup

/-!
# Rendering

A node that is ready is rendered by its definition from its instance and the output of its children.
The output is kept with a stamp of what it depends on, and is used again as long as the stamp stays
the same, unless the node has been marked as stale. Waiting and failed nodes show a placeholder and
a fallback.

With a layout the roots are placed into its regions.
-/

namespace WidgetFlow

/-- The part of a stamp that a child gives. -/
inductive StampPart where
  | text (content : String)
  | child (stamp : Stamp)
deriving DecidableEq, Repr

/-- A stamp of the parts of all children in order and a revision. -/
def Stamp.ofParts (parts : List StampPart) (revision : Nat) : Stamp :=
  parts.foldr (fun part rest =>
    match part with
    | .text content => .text content rest
    | .child stamp => .child stamp rest) (.revision revision)

namespace RenderMemo

/-- The kept output of a node, if its stamp is the given one. -/
def output? (m : RenderMemo) (index : Nat) (stamp : Stamp) : Option Output :=
  ((m.kept.lookup index).filter (·.stamp = stamp)).map (·.output)

/-- Keeps an output of a node in place of an earlier one, and counts that it was rendered. -/
def keep (m : RenderMemo) (index : Nat) (r : Rendering) : RenderMemo :=
  { m with kept := (index, r) :: m.kept.filter (·.1 != index), count := m.count + 1 }

/-- Takes the mark from a node. -/
def freshen (m : RenderMemo) (id : String) : RenderMemo :=
  { m with stale := m.stale.filter (· != id) }

/-- Marks nodes as stale. -/
def mark (m : RenderMemo) (ids : List String) : RenderMemo :=
  { m with stale := ids.foldl (fun stale id => insertName id stale) m.stale }

end RenderMemo

/-- The fallback of a node for a reason. -/
def Node.fallback (n : Node) (reason : String) : Output :=
  .fallback n.id n.tag n.declared reason

/-- What an instance of a definition is rendered from. -/
def renderContext (d : Definition) (i : Instance) (children : List Output) : RenderContext :=
  { target := i
    properties := layer [d.defaults, i.properties, i.state]
    styles := i.presentation.styles
    classes := i.presentation.classes
    hidden := i.presentation.hidden
    children }

/-- Renders the instance of a node, or gives the kept output if that will do. -/
def renderInstance (index : Nat) (id : String) (d : Definition) (i : Instance)
    (children : List Output) (stamp : Stamp) : StateM RenderMemo Output := fun m =>
  match if m.stale.contains id then none else m.output? index stamp with
  | some output => (output, m.freshen id)
  | none =>
    let output := d.render (renderContext d i children)
    (output, (m.freshen id).keep index ⟨stamp, output⟩)

/-- Renders a child of a node by a way to render nodes. -/
def renderChild (render : Nat → StateM RenderMemo (Output × Stamp)) :
    Child → StateM RenderMemo (Output × StampPart)
  | .text content => pure (.text content, .text content)
  | .node index => do
    let (output, stamp) ← render index
    return (output, .child stamp)

/-- Renders the node of a number with what is below it, at most `n` nodes deep, and gives its stamp.
For a number without node there is nothing to render. -/
def renderNode (arena : Arena) (instances : Store) :
    Nat → Nat → StateM RenderMemo (Output × Stamp)
  | 0, _ => pure (.fragment [], .waiting)
  | n + 1, index =>
    match arena.get? index with
    | none => pure (.fragment [], .waiting)
    | some node =>
      match node.status with
      | .unresolved => pure (.loading node.id node.tag, .waiting)
      | .loading => pure (.loading node.id node.tag, .waiting)
      | .error reason => pure (node.fallback reason, .failed)
      | .ready d => do
        let children ← node.children.mapM (renderChild (renderNode arena instances n))
        match instances.get? node.id with
        | none => return (node.fallback "instance missing", .failed)
        | some i =>
          let stamp := Stamp.ofParts (children.map (·.2)) i.revision
          let output ← renderInstance index node.id d i (children.map (·.1)) stamp
          return (output, stamp)

/-- Adds an output to the first region of a name; nothing if there is no such region. -/
def placeIn (name : String) (output : Output) :
    List (String × List Output) → Option (List (String × List Output))
  | [] => none
  | (region, outputs) :: rest =>
    if region = name then some ((region, outputs ++ [output]) :: rest)
    else (placeIn name output rest).map ((region, outputs) :: ·)

/-- Places outputs into regions. What has no region, or one that is not there, is unassigned. -/
def placeAll (roots : List (Option String × Output)) (regions : List (String × List Output)) :
    List (String × List Output) × List Output :=
  roots.foldl (fun (regions, unassigned) (region?, output) =>
    match region?.bind fun name => placeIn name output regions with
    | some regions => (regions, unassigned)
    | none => (regions, unassigned ++ [output])) (regions, [])

/-- The outputs of roots, each with the region it is planned for, in a layout. -/
def Layout.arrange (l : Layout) (roots : List (Option String × Output)) : Output :=
  let (regions, unassigned) := placeAll roots (l.regions.map fun name => (name, []))
  .fragment (regions.map (fun (name, outputs) => .region name outputs) ++
    if unassigned.isEmpty then [] else [.region "unassigned" unassigned])

/-- Outputs one behind the other; one alone stands for itself. -/
def joinOutputs : List Output → Output
  | [output] => output
  | outputs => .fragment outputs

namespace Screen

/-- Runs a rendering with what is remembered. -/
def rendering {α : Type} (s : Screen) (run : StateM RenderMemo α) : α × Screen :=
  let (a, memo) := run.run s.memo
  (a, { s with memo })

/-- Renders the node of a number. No path through the tree is longer than there are slots. -/
def renderAt (s : Screen) (index : Nat) : StateM RenderMemo Output :=
  (·.1) <$> renderNode s.arena s.engine.instances (s.arena.slots.length + 1) index

/-- Renders everything that is mounted. -/
def render (s : Screen) : Output × Screen :=
  let (outputs, s) := s.rendering (s.arena.roots.mapM s.renderAt)
  match s.layout? with
  | none => (joinOutputs outputs, s)
  | some layout =>
    let regions := s.arena.roots.map fun index => (s.arena.get? index).bind (·.region?)
    (layout.arrange (regions.zip outputs), s)

/-- Renders the node of an id with what is below it. -/
def renderId (s : Screen) (id : String) : Option Output × Screen :=
  match s.arena.indexOf? id with
  | none => (none, s)
  | some index =>
    let (output, s) := s.rendering (s.renderAt index)
    (some output, s)

/-- The markup of everything that is mounted. -/
def markup (s : Screen) : String × Screen :=
  let (output, s) := s.render
  (output.markup, s)

/-- Lets nodes be rendered anew in any case. -/
def refresh (s : Screen) (ids : List String) : Screen := { s with memo := s.memo.mark ids }

end Screen

end WidgetFlow
