import WidgetFlow.Flow.Graph
import WidgetFlow.Widget.Point

/-!
# Automatic connections

Connections are proposed between components from the names and the types of their points. Two
points match by name if their ids agree without regard to ASCII case, or if the one is a usual name
of a value that goes out and the other a usual name of one that comes in. Types have to be
compatible; if it is allowed, a number may also go to a text, by way of a transform.
-/

namespace WidgetFlow

/-- A proposed connection, perhaps with the name of a transform. -/
structure Proposal where
  source : Endpoint
  target : Endpoint
  transform? : Option String
deriving DecidableEq, Repr, Inhabited

/-- Usual names of values that go out. -/
def valueOutputs : List String := ["value", "change", "changed", "selected", "output", "result"]

/-- Usual names of values that come in. -/
def valueInputs : List String := ["value", "text", "data", "content", "input"]

/-- Whether an output and an input match by name. -/
def namesMatch (output input : Point) : Bool :=
  let out := Text.lowerAscii output.id
  let into := Text.lowerAscii input.id
  out = into || (valueOutputs.contains out && valueInputs.contains into)

/-- How data of one type gets to a point of another: directly, by a transform, or not at all. -/
def typeBridge (numberToText : Bool) (a b : DataType) : Option (Option String) :=
  if a.isCompatible b then some none
  else if a = .number && b = .text && numberToText then some (some "toString")
  else none

/-- The proposal from an output of one component to an input of another, if the two may be
connected. -/
def proposal? (numberToText : Bool) (source : String) (output : Point) (target : String)
    (input : Point) : Option Proposal :=
  if source ≠ target && output.direction.emits && input.direction.accepts &&
      namesMatch output input then
    (typeBridge numberToText output.dataType input.dataType).map fun transform? =>
      ⟨⟨source, output.id⟩, ⟨target, input.id⟩, transform?⟩
  else none

/-- A list of proposals with one more, unless one between the same points is there or such a
connection exists. -/
def addProposal (existing : Graph) (proposals : List Proposal) (p : Proposal) : List Proposal :=
  if existing.exists? p.source p.target ||
      proposals.any (fun q => q.source = p.source && q.target = p.target) then proposals
  else proposals ++ [p]

/-- The proposals among components with the given points: by the source component, its outputs, the
target component and its inputs, in this order. -/
def propose (numberToText : Bool) (components : List String) (pointsOf : String → List Point)
    (existing : Graph) : List Proposal :=
  let candidates := components.flatMap fun source => (pointsOf source).flatMap fun output =>
    components.flatMap fun target => (pointsOf target).filterMap fun input =>
      proposal? numberToText source output target input
  candidates.foldl (addProposal existing) []

end WidgetFlow
