import WidgetFlow.Value.Basic

/-!
# Output trees

What rendering gives: a tree of elements and texts, with placeholders for nodes that are not ready,
fallbacks for nodes that cannot be rendered, and regions and fragments that group.
-/

namespace WidgetFlow

/-- An output tree. -/
inductive Output where
  | element (id tag : String) (attributes styles : List (String × Value)) (classes : List String)
      (hidden : Bool) (children : List Output)
  | text (content : String)
  | loading (id attemptedType : String)
  | fallback (id attemptedType : String) (properties : List (String × Value)) (reason : String)
  | region (name : String) (children : List Output)
  | fragment (children : List Output)
deriving BEq, Inhabited

namespace Output

/-- The id of an element, a placeholder or a fallback. -/
def id? : Output → Option String
  | .element id .. => some id
  | .loading id _ => some id
  | .fallback id .. => some id
  | _ => none

/-- The trees directly below. -/
def children : Output → List Output
  | .element _ _ _ _ _ _ children => children
  | .region _ children => children
  | .fragment children => children
  | _ => []

/-- Whether a tree is a fallback. -/
def isFallback : Output → Bool
  | .fallback .. => true
  | _ => false

mutual
/-- The first tree with an id, parents before children. -/
def find? (id : String) (tree : Output) : Option Output :=
  if tree.id? = some id then some tree
  else
    match tree with
    | .element _ _ _ _ _ _ children => findIn? id children
    | .region _ children => findIn? id children
    | .fragment children => findIn? id children
    | _ => none
/-- The first tree with an id in a list of trees. -/
def findIn? (id : String) : List Output → Option Output
  | [] => none
  | tree :: rest =>
    match find? id tree with
    | some found => some found
    | none => findIn? id rest
end

mutual
/-- All texts of a tree in order. -/
def textContent : Output → String
  | .text content => content
  | .element _ _ _ _ _ _ children => textOf children
  | .region _ children => textOf children
  | .fragment children => textOf children
  | _ => ""
/-- All texts of a list of trees in order. -/
def textOf : List Output → String
  | [] => ""
  | tree :: rest => textContent tree ++ textOf rest
end

mutual
/-- A tree as a value. -/
def toValue : Output → Value
  | .element id tag attributes styles classes hidden children =>
    .obj [("attributes", .obj attributes), ("children", .arr (valuesOf children)),
      ("classes", .arr (classes.map .str)), ("hidden", .bool hidden), ("id", .str id),
      ("node", .str "element"), ("styles", .obj styles), ("tag", .str tag)]
  | .text content => .obj [("content", .str content), ("node", .str "text")]
  | .loading id attemptedType =>
    .obj [("attempted_type", .str attemptedType), ("id", .str id), ("node", .str "loading")]
  | .fallback id attemptedType properties reason =>
    .obj [("attemptedType", .str attemptedType), ("id", .str id), ("node", .str "fallback"),
      ("properties", .obj properties), ("reason", .str reason)]
  | .region name children =>
    .obj [("children", .arr (valuesOf children)), ("name", .str name), ("node", .str "region")]
  | .fragment children =>
    .obj [("children", .arr (valuesOf children)), ("node", .str "fragment")]
/-- Trees as values. -/
def valuesOf : List Output → List Value
  | [] => []
  | tree :: rest => toValue tree :: valuesOf rest
end

end Output

end WidgetFlow
