import WidgetFlow.Value.Basic

/-!
# Merging records

`Value.merge` overlays one record on another: fields that are records on both sides are merged in
turn, and everywhere else the overlay wins. `layer` puts whole layers of fields on top of each
other without looking inside.
-/

namespace WidgetFlow

namespace Value

mutual
/-- The first value with the second laid over it: records are merged, otherwise the second wins. -/
def merge (base : Value) : Value → Value
  | .obj overlay =>
    match base with
    | .obj fields => .obj (mergeFields fields overlay)
    | _ => .obj overlay
  | overlay => overlay
/-- The fields of a record with the fields of another laid over them. -/
def mergeFields (base : Dict Value) : List (String × Value) → Dict Value
  | [] => base
  | (k, v) :: rest =>
    let merged := match Dict.get? base k with
      | some old => merge old v
      | none => v
    mergeFields (Dict.insert base k merged) rest
end

end Value

/-- Layers of fields put on top of each other, later ones over earlier ones. -/
def layer (layers : List (Dict Value)) : Dict Value := layers.foldl Dict.union []

end WidgetFlow
