import WidgetFlow.Widget.Definition
import WidgetFlow.Value.Coerce

/-!
# The catalog of widgets

Definitions for the canonical kinds that come with the library. They say which points a widget has
and render plain elements; several put a text before the children.
-/

namespace WidgetFlow.Catalog

/-- The text of the first of several properties that is there and not null. -/
def label? (keys : List String) (properties : Dict Value) : Option String :=
  (keys.findSome? fun key => (Dict.get? properties key).filter (!·.isNull)).map Value.toText

/-- An element whose first child is the text of the first of several properties that is not null. -/
def labelled (keys : List String) (ctx : RenderContext) : Output :=
  let label := (label? keys ctx.properties).map Output.text
  { ctx with children := label.toList ++ ctx.children }.toElement ctx.target.kind.tag

/-- The element of an item of a list. -/
def listItem (id : String) (index : Nat) (item : Value) : Output :=
  .element s!"{id}-item-{index}" "item" [] [] [] false [.text item.toText]

/-- A list, with an element for each item before the children. -/
def renderList (ctx : RenderContext) : Output :=
  let items := ((Dict.get? ctx.properties "items").bind Value.items?).getD []
  let elements := items.zipIdx.map fun (item, i) => listItem ctx.target.id i item
  { ctx with
    properties := Dict.erase ctx.properties "items"
    children := elements ++ ctx.children }.toElement "list"

/-- A widget that can be clicked. -/
def button : Definition where
  kind := .button
  capabilities :=
    [⟨"events", [.output "click" .any]⟩,
     ⟨"content", [.input "label" .text, .input "disabled" .boolean]⟩]
  defaults := [("label", .str "Button")]
  render? := some (labelled ["label", "text"])

/-- A widget that shows a text. -/
def text : Definition where
  kind := .text
  capabilities := [⟨"content", [.input "text" .text, .input "content" .text]⟩]
  render? := some (labelled ["text", "content"])

/-- A heading. -/
def heading : Definition where
  kind := .heading
  capabilities := [⟨"content", [.input "text" .text]⟩]
  defaults := [("level", .ofInt 1)]
  render? := some (labelled ["text", "content"])

/-- A field for a text. -/
def input : Definition where
  kind := .input
  capabilities :=
    [⟨"value",
      [.bidirectional "value" .text, .output "change" .text, .output "submit" .text]⟩,
     ⟨"display", [.input "placeholder" .text]⟩]
  defaults := [("value", .str "")]

/-- A widget that is on or off. -/
def switch (kind : Kind) : Definition where
  kind
  capabilities := [⟨"value", [.bidirectional "checked" .boolean, .output "change" .boolean]⟩]
  defaults := [("checked", .bool false)]
  render? := some (labelled ["label"])

/-- A slider from 0 to 100. -/
def slider : Definition where
  kind := .slider
  capabilities := [⟨"value", [.bidirectional "value" .number, .output "change" .number]⟩]
  defaults := [("max", .ofInt 100), ("min", .ofInt 0), ("value", .ofInt 50)]

/-- A choice of options. -/
def select : Definition where
  kind := .select
  capabilities :=
    [⟨"value",
      [.bidirectional "value" .text, .input "options" .array, .output "change" .text,
       .output "selected" .text]⟩]
  defaults := [("options", .arr [])]

/-- An image. -/
def image : Definition where
  kind := .image
  capabilities := [⟨"content", [.input "src" .text, .input "alt" .text]⟩]

/-- A list of items. -/
def list : Definition where
  kind := .list
  capabilities := [⟨"data", [.input "items" .array, .output "selected" .any]⟩]
  defaults := [("items", .arr [])]
  render? := some renderList

/-- A card with a title. -/
def card : Definition where
  kind := .card
  capabilities := [⟨"content", [.input "title" .text, .input "content" .text]⟩]
  render? := some (labelled ["title"])

/-- A widget that only holds others. -/
def container : Definition where
  kind := .container
  capabilities := [⟨"data", [.input "data" .any]⟩]

/-- A form. -/
def form : Definition where
  kind := .form
  capabilities := [⟨"data", [.input "data" .object, .output "submit" .object]⟩]

/-- A link. -/
def link : Definition where
  kind := .link
  capabilities :=
    [⟨"events", [.output "click" .any]⟩,
     ⟨"content", [.input "href" .text, .input "text" .text]⟩]
  render? := some (labelled ["text", "href"])

/-- All definitions in the order in which they are registered. -/
def definitions : List Definition :=
  [button, text, heading, input, switch .checkbox, switch .toggle, slider, select, image, list,
   card, container, form, link]

end WidgetFlow.Catalog
