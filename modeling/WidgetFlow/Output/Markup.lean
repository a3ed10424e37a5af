import WidgetFlow.Output.Basic
import WidgetFlow.Value.Printer

/-!
# Markup

The markup of an output tree. An element is written as a tag with its id, its attributes, its
classes, its styles and perhaps the mark `hidden`, and closes itself if it has no children. Text and
the values of attributes are escaped; names of tags and attributes are written as they are.
-/

namespace WidgetFlow.Output

/-- A character in text or in the value of an attribute. -/
def escapeChar (c : Char) : List Char :=
  match c with
  | '&' => "&amp;".toList
  | '<' => "&lt;".toList
  | '>' => "&gt;".toList
  | '"' => "&quot;".toList
  | c => [c]

/-- Text in which no character can be taken for markup. -/
def escape (raw : String) : String := String.ofList (raw.toList.flatMap escapeChar)

/-- A value as the value of an attribute: a text as it is, all else as JSON. -/
def attributeText : Value → String
  | .str s => s
  | v => v.toJson

/-- A name with a quoted value, after a space. -/
def attr (name text : String) : String := " " ++ name ++ "=\"" ++ escape text ++ "\""

/-- Styles as the value of one attribute. -/
def styleText (styles : List (String × Value)) : String :=
  ";".intercalate (styles.map fun s => s.1 ++ ":" ++ attributeText s.2)

/-- What stands in the tag of an element behind its name. -/
def tagAttributes (id : String) (attributes styles : List (String × Value)) (classes : List String)
    (hidden : Bool) : String :=
  attr "id" id ++
  String.join (attributes.map fun a => attr a.1 (attributeText a.2)) ++
  (if classes.isEmpty then "" else attr "class" (" ".intercalate classes)) ++
  (if styles.isEmpty then "" else attr "style" (styleText styles)) ++
  (if hidden then " hidden" else "")

/-- What stands in a fallback. -/
def fallbackText (id attemptedType : String) (properties : List (String × Value))
    (reason : String) : String :=
  "Unable to render \"" ++ escape attemptedType ++ "\" (id " ++ escape id ++ "): " ++
    escape reason ++ "; properties: " ++ escape (Value.obj properties).toJson

mutual
/-- The markup of a tree. -/
def markup : Output → String
  | .element id tag attributes styles classes hidden children =>
    "<" ++ tag ++ tagAttributes id attributes styles classes hidden ++
      (if children.isEmpty then "/>" else ">" ++ markupAll children ++ "</" ++ tag ++ ">")
  | .text content => escape content
  | .loading id attemptedType =>
    "<loading" ++ attr "id" id ++ attr "type" attemptedType ++ "/>"
  | .fallback id attemptedType properties reason =>
    "<fallback" ++ attr "id" id ++ attr "type" attemptedType ++ ">" ++
      fallbackText id attemptedType properties reason ++ "</fallback>"
  | .region name children =>
    "<region" ++ attr "name" name ++ ">" ++ markupAll children ++ "</region>"
  | .fragment children => markupAll children
/-- The markup of trees one behind the other. -/
def markupAll : List Output → String
  | [] => ""
  | tree :: rest => markup tree ++ markupAll rest
end

end WidgetFlow.Output
