import WidgetFlow.Value.Reader
import WidgetFlow.Value.Record

/-!
# Plans

A plan describes a tree of nodes before it is mounted, and an application plan describes a whole
application: its top-level nodes, the regions they go to, and the connections between nodes.

Plans are read from values (`NodePlan.ofValue?`, `AppPlan.ofValue?`) and written back as values
(`NodePlan.toValue`, `AppPlan.toValue`). A plan that is written leaves out what is optional and not
given, and writes everything else.
-/

namespace WidgetFlow

/-- Handler code, perhaps with the ids of the nodes it changes. -/
inductive CodePlan where
  | plain (code : String)
  | detailed (code : String) (affected : List String)
deriving DecidableEq, Repr, Inhabited

/-- A behavior to apply to a node, with its options. -/
structure BehaviorPlan where
  behavior : String
  options : Value
deriving BEq, Inhabited

/-- What a plan says of one node, its children aside. -/
structure NodeInfo where
  id? : Option String := none
  tag : String
  properties : Dict Value := []
  styles : Dict Value := []
  events : Dict CodePlan := []
  methods : Dict CodePlan := []
  region? : Option String := none
  behaviors : List BehaviorPlan := []
deriving BEq, Inhabited

/-- A child in a plan: a text, or a node with its own children. -/
inductive ChildPlan where
  | text (content : String)
  | node (info : NodeInfo) (children : List ChildPlan)
deriving BEq, Inhabited

/-- The plan of a tree. -/
structure NodePlan where
  info : NodeInfo
  children : List ChildPlan
deriving BEq, Inhabited

/-- A planned tree as a child. -/
def NodePlan.asChild (p : NodePlan) : ChildPlan := .node p.info p.children

/-- The layout of an application: its name, and its regions in order. -/
structure Layout where
  name : String := ""
  regions : List String := []
deriving DecidableEq, Repr, Inhabited

/-- A connection that a plan asks for. -/
structure Wire where
  sourceId : String
  sourcePoint : String
  targetId : String
  targetPoint : String
  transform? : Option String := none
deriving DecidableEq, Repr, Inhabited

/-- The plan of an application. -/
structure AppPlan where
  layout : Layout := {}
  components : List NodePlan := []
  theme? : Option Value := none
  functionality? : Option Value := none
  wires : List Wire := []
deriving BEq, Inhabited

namespace CodePlan

/-- The code itself. -/
def code : CodePlan → String
  | .plain code => code
  | .detailed code _ => code

/-- The ids of the nodes that the code is said to change. -/
def affected : CodePlan → List String
  | .plain _ => []
  | .detailed _ affected => affected

end CodePlan

/-! ## Reading -/

/-- The code that a value describes: a text, or a record with named fields. -/
def CodePlan.ofValue? : Value → Option CodePlan
  | .str code => some (.plain code)
  | .obj fields => do
    let given ← (Value.obj fields).record? ["code", "affectedComponents"]
    let code ← Value.required given "code" Value.text?
    let affected ← Value.withDefault given "affectedComponents" [] (Value.listOf? Value.text?)
    return .detailed code affected
  | _ => none

/-- The names of the fields of a behavior in their declared order. -/
def behaviorFields : List String := ["behavior", "options"]

/-- The behavior that a value describes. -/
def BehaviorPlan.ofValue? (v : Value) : Option BehaviorPlan := do
  let given ← v.record? behaviorFields
  let behavior ← Value.required given "behavior" Value.text?
  let options ← Value.withDefault given "options" .null fun v => some v.canonical
  return { behavior, options }

/-- The names of the fields of a node in their declared order. -/
def nodeFields : List String :=
  ["id", "type", "properties", "children", "styles", "events", "methods", "region", "behaviors"]

/-- What a value says of one node. -/
def NodeInfo.ofValue? (v : Value) : Option NodeInfo := do
  let given ← v.record? nodeFields
  let id? ← Value.optional given "id" Value.text?
  let tag ← Value.required given "type" Value.text?
  let properties ← Value.withDefault given "properties" [] Value.dict?
  let styles ← Value.withDefault given "styles" [] Value.dict?
  let events ← Value.withDefault given "events" [] (Value.dictOf? CodePlan.ofValue?)
  let methods ← Value.withDefault given "methods" [] (Value.dictOf? CodePlan.ofValue?)
  let region? ← Value.optional given "region" Value.text?
  let behaviors ← Value.withDefault given "behaviors" [] (Value.listOf? BehaviorPlan.ofValue?)
  return { id?, tag, properties, styles, events, methods, region?, behaviors }

mutual
/-- The children that the value of a node describes. -/
def childrenOf? : Value → Option (List ChildPlan)
  | .obj fields => childrenInFields? fields
  | .arr (_ :: _ :: _ :: children :: _) => childList? children
  | _ => some []
/-- The children that the field of this name describes; none if there is no such field. -/
def childrenInFields? : List (String × Value) → Option (List ChildPlan)
  | [] => some []
  | (name, v) :: rest => if name = "children" then childList? v else childrenInFields? rest
/-- A list of children. -/
def childList? : Value → Option (List ChildPlan)
  | .arr items => childPlans? items
  | _ => none
/-- The children that values describe. -/
def childPlans? : List Value → Option (List ChildPlan)
  | [] => some []
  | v :: rest => do
    let child ← childPlan? v
    let children ← childPlans? rest
    return child :: children
/-- The child that a value describes. -/
def childPlan? : Value → Option ChildPlan
  | .str content => some (.text content)
  | v => do
    let info ← NodeInfo.ofValue? v
    let children ← childrenOf? v
    return .node info children
end

/-- The tree that a value describes. -/
def NodePlan.ofValue? (v : Value) : Option NodePlan := do
  let info ← NodeInfo.ofValue? v
  let children ← childrenOf? v
  return { info, children }

/-- The names of the fields of a layout in their declared order. -/
def layoutFields : List String := ["type", "regions"]

/-- The layout that a value describes. -/
def Layout.ofValue? (v : Value) : Option Layout := do
  let given ← v.record? layoutFields
  let name ← Value.withDefault given "type" "" Value.text?
  let regions ← Value.withDefault given "regions" [] (Value.listOf? Value.text?)
  return { name, regions }

/-- The names of the fields of a connection in their declared order. -/
def wireFields : List String :=
  ["sourceId", "sourcePoint", "targetId", "targetPoint", "transformerName"]

/-- The connection that a value describes. -/
def Wire.ofValue? (v : Value) : Option Wire := do
  let given ← v.record? wireFields
  let sourceId ← Value.required given "sourceId" Value.text?
  let sourcePoint ← Value.required given "sourcePoint" Value.text?
  let targetId ← Value.required given "targetId" Value.text?
  let targetPoint ← Value.required given "targetPoint" Value.text?
  let transform? ← Value.optional given "transformerName" Value.text?
  return { sourceId, sourcePoint, targetId, targetPoint, transform? }

/-- The application that a value describes. -/
def AppPlan.ofValue? (v : Value) : Option AppPlan := do
  let given ← v.record? ["layout", "components", "theme", "functionality", "connections"]
  let layout ← Value.withDefault given "layout" {} Layout.ofValue?
  let components ← Value.withDefault given "components" [] (Value.listOf? NodePlan.ofValue?)
  let theme? ← Value.optional given "theme" fun v => some v.canonical
  let functionality? ← Value.optional given "functionality" fun v => some v.canonical
  let wires ← Value.withDefault given "connections" [] (Value.listOf? Wire.ofValue?)
  return { layout, components, theme?, functionality?, wires }

/-! ## Writing -/

/-- A field that is left out if it is not given. -/
def optionalField (name : String) : Option Value → List (String × Value)
  | some v => [(name, v)]
  | none => []

/-- Code as a value. -/
def CodePlan.toValue : CodePlan → Value
  | .plain code => .str code
  | .detailed code affected =>
    .obj [("affectedComponents", .arr (affected.map .str)), ("code", .str code)]

/-- A behavior as a value. -/
def BehaviorPlan.toValue (b : BehaviorPlan) : Value :=
  .obj [("behavior", .str b.behavior), ("options", b.options)]

/-- A node as a value, given its children as values. -/
def NodeInfo.toValue (info : NodeInfo) (children : List Value) : Value :=
  .obj ([("behaviors", .arr (info.behaviors.map BehaviorPlan.toValue)),
      ("children", .arr children),
      ("events", .obj (Dict.mapValues CodePlan.toValue info.events))] ++
    optionalField "id" (info.id?.map .str) ++
    [("methods", .obj (Dict.mapValues CodePlan.toValue info.methods)),
      ("properties", .obj info.properties)] ++
    optionalField "region" (info.region?.map .str) ++
    [("styles", .obj info.styles), ("type", .str info.tag)])

/-- Children as values. -/
def childValues : List ChildPlan → List Value
  | [] => []
  | .text content :: rest => .str content :: childValues rest
  | .node info children :: rest => info.toValue (childValues children) :: childValues rest

/-- A tree as a value. -/
def NodePlan.toValue (p : NodePlan) : Value := p.info.toValue (childValues p.children)

/-- A layout as a value. -/
def Layout.toValue (l : Layout) : Value :=
  .obj [("regions", .arr (l.regions.map .str)), ("type", .str l.name)]

/-- A connection as a value. -/
def Wire.toValue (w : Wire) : Value :=
  .obj ([("sourceId", .str w.sourceId), ("sourcePoint", .str w.sourcePoint),
      ("targetId", .str w.targetId), ("targetPoint", .str w.targetPoint)] ++
    optionalField "transformerName" (w.transform?.map .str))

/-- An application as a value. -/
def AppPlan.toValue (a : AppPlan) : Value :=
  .obj ([("components", .arr (a.components.map NodePlan.toValue)),
      ("connections", .arr (a.wires.map Wire.toValue))] ++
    optionalField "functionality" a.functionality? ++
    [("layout", a.layout.toValue)] ++
    optionalField "theme" a.theme?)

/-! ## Text -/

/-- What is read of the text of a tree. Children and handler code are read as a whole, because what
they are is only seen from the value. -/
def NodePlan.outline : Outline :=
  .record (nodeFields.map fun name =>
    (name, if name = "behaviors" then .list (.flat behaviorFields) else .whole))

/-- What is read of the text of an application. -/
def AppPlan.outline : Outline :=
  .record [("layout", .flat layoutFields), ("components", .list NodePlan.outline),
    ("theme", .whole), ("functionality", .whole), ("connections", .list (.flat wireFields))]

/-- The tree that a JSON text describes. -/
def NodePlan.ofJson? (text : String) : Option NodePlan :=
  (Value.ofJsonAlong? NodePlan.outline text).bind NodePlan.ofValue?

/-- The application that a JSON text describes. -/
def AppPlan.ofJson? (text : String) : Option AppPlan :=
  (Value.ofJsonAlong? AppPlan.outline text).bind AppPlan.ofValue?

end WidgetFlow
