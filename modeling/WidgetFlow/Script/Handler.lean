import WidgetFlow.Script.Shape
import WidgetFlow.Script.Eval

/-!
# Handlers

A handler is code compiled once and run many times. A run binds `event` and `accessor`, and the
first and the second parameter of a function to the same two things, whatever they are called;
further parameters are null. As a transform a handler sees only the value it maps, under the name
`value` and the name of its first parameter, and runs without components.
-/

namespace WidgetFlow.Script

/-- What one run of a handler is given: the event, the component that is called itself, and the
greatest number of steps. -/
structure Invocation where
  event : Value
  selfId : Option String
  maxSteps : Nat

/-- What a run that succeeds gives: the result, and the components that were written. -/
structure Outcome where
  value : Value
  touched : List String
deriving BEq

namespace Handler

variable {σ : Type} [Host σ]

/-- What each parameter is bound to. -/
def arguments (params : List String) (event : Value) : List (String × Operand) :=
  params.zipIdx.map fun (name, i) =>
    (name, if i = 0 then .value event else if i = 1 then .accessor else .null)

/-- The session in which a handler starts. -/
def session (h : Handler) (call : Invocation) (host : σ) : Session σ :=
  let s := ((Session.start host call.selfId call.maxSteps).bind "event" (.value call.event)).bind
    "accessor" .accessor
  (arguments h.params call.event).foldl (fun s (name, held) => s.bind name held) s

/-- Runs a handler on a host. The host keeps what was done to it even if the run fails. -/
def run (h : Handler) (call : Invocation) (host : σ) : Except RunError Outcome × σ :=
  let (result, s) := runProgram h.body (h.session call host)
  (result.map fun v => ⟨v.toValue, s.touched⟩, s.host)

/-- Maps a value, with the lines printed on the way. -/
def transform (h : Handler) (value : Value) (maxSteps : Nat) :
    Except RunError Value × List String :=
  let start := (Session.start ({} : Console) none maxSteps).bind "value" (.value value)
  let start := match h.params with
    | name :: _ => start.bind name (.value value)
    | [] => start
  let (result, s) := runProgram h.body start
  (result.map Operand.toValue, s.host.lines)

end Handler

end WidgetFlow.Script
