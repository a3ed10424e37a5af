import WidgetFlow.Script.Budget
import WidgetFlow.Script.Path
import WidgetFlow.Script.Tree
import WidgetFlow.Script.Host

/-!
# Sessions

A session is what handler code runs in: the host, the variables in their scopes, the steps taken,
the components written so far, and the value of the last expression statement. One session may run
several programs in turn.

`Run` is a computation in a session that may fail. A failure keeps what was done before it.
-/

namespace WidgetFlow.Script

/-- A variable: what it holds, and whether it is constant. -/
structure Binding where
  held : Operand
  constant : Bool
deriving Inhabited

/-- The variables of one scope. -/
abbrev Scope := Dict Binding

/-- The state of running code. The outermost scope is always there; the inner scopes are listed
from the innermost one outwards. -/
structure Session (σ : Type) where
  host : σ
  selfId : Option String
  outer : Scope
  inner : List Scope
  steps : Nat
  maxSteps : Nat
  completion : Operand
  touched : List String

/-- A session with nothing in it, over a host. -/
def Session.start {σ : Type} (host : σ) (selfId : Option String) (maxSteps : Nat) : Session σ :=
  { host, selfId, outer := [], inner := [], steps := 0, maxSteps, completion := .null,
    touched := [] }

/-- A computation in a session. -/
abbrev Run (σ : Type) := ExceptT RunError (StateM (Session σ))

namespace Session

variable {σ : Type}

/-- The session with a variable of the outermost scope bound anew. -/
def bind (s : Session σ) (name : String) (held : Operand) : Session σ :=
  { s with outer := Dict.insert s.outer name ⟨held, false⟩ }

/-- The variable of a name in the innermost scope that has one. -/
def lookup (s : Session σ) (name : String) : Option Binding :=
  (s.inner.findSome? (Dict.get? · name)).orElse fun _ => Dict.get? s.outer name

/-- Scopes with what the variable of a name holds replaced in the first scope that has it; nothing
if no scope has it. -/
def replaceIn (name : String) (held : Operand) : List Scope → Option (List Scope)
  | [] => none
  | scope :: rest =>
    match Dict.get? scope name with
    | some _ => some (Dict.modify scope name (fun b => { b with held }) :: rest)
    | none => (replaceIn name held rest).map (scope :: ·)

/-- The session with what a variable holds replaced, in the innermost scope that has it. -/
def replace (s : Session σ) (name : String) (held : Operand) : Session σ :=
  match replaceIn name held s.inner with
  | some inner => { s with inner }
  | none => { s with outer := Dict.modify s.outer name fun b => { b with held } }

/-- The session with a new innermost scope. -/
def push (s : Session σ) : Session σ := { s with inner := [] :: s.inner }

/-- The session without its innermost scope. -/
def pop (s : Session σ) : Session σ := { s with inner := s.inner.tail }

/-- The session with a variable declared. In one scope a name is declared once; only a declaration
for the whole handler may repeat an earlier one that is not constant. -/
def declare (s : Session σ) (kind : DeclKind) (name : String) (held : Operand) :
    Except RunError (Session σ) :=
  let scope := match kind, s.inner with
    | .handler, _ => s.outer
    | _, [] => s.outer
    | _, scope :: _ => scope
  let clash := match Dict.get? scope name with
    | some old => kind != DeclKind.handler || old.constant
    | none => false
  if clash then .error (.redeclared name)
  else
    let scope := Dict.insert scope name ⟨held, kind == DeclKind.constant⟩
    match kind, s.inner with
    | .handler, _ => .ok { s with outer := scope }
    | _, [] => .ok { s with outer := scope }
    | _, _ :: rest => .ok { s with inner := scope :: rest }

end Session

namespace Run

variable {σ α : Type}

/-- Takes one step, if the limit allows one more. -/
def tick : Run σ Unit := fun s =>
  let s := { s with steps := s.steps + 1 }
  if s.maxSteps < s.steps then (.error (.stepLimit s.maxSteps), s) else (.ok (), s)

/-- Runs a computation in a new scope, which is gone afterwards however the computation ends. -/
def inScope (run : Run σ α) : Run σ α := fun s =>
  let (result, s) := run s.push
  (result, s.pop)

/-- The result of a pure computation. -/
def lift (result : Except RunError α) : Run σ α := fun s => (result, s)

/-- Declares a variable. -/
def declare (kind : DeclKind) (name : String) (held : Operand) : Run σ Unit := fun s =>
  match s.declare kind name held with
  | .ok s => (.ok (), s)
  | .error e => (.error e, s)

/-- What a name stands for: a variable, or else a global or the accessor. -/
def resolveName (name : String) : Run σ Operand := fun s =>
  match s.lookup name with
  | some b => (.ok b.held, s)
  | none =>
    match name with
    | "Math" => (.ok (.global .math), s)
    | "console" => (.ok (.global .console), s)
    | "String" => (.ok (.global .string), s)
    | "Number" => (.ok (.global .number), s)
    | "Boolean" => (.ok (.global .boolean), s)
    | "accessor" => (.ok .accessor, s)
    | _ => (.error (.unknownVariable name), s)

/-- Assigns to a variable. A name that is not declared becomes a variable of the whole handler. -/
def assignVariable (name : String) (held : Operand) : Run σ Unit := fun s =>
  match s.lookup name with
  | some b => if b.constant then (.error (.assignToConstant name), s) else (.ok (), s.replace name held)
  | none => (.ok (), s.bind name held)

/-- Writes below a variable, in place. The variable keeps what was written even if that is then
found to be too large. -/
def assignBelow (name : String) (path : List PathStep) (new : Value) : Run σ Unit := fun s =>
  match s.lookup name with
  | none => (.error (.unknownVariable name), s)
  | some b =>
    match b.held with
    | .value old =>
      let (done, v) := write new path old
      let s := s.replace name (.value v)
      match done with
      | .error e => (.error e, s)
      | .ok () => if withinBudget v then (.ok (), s) else (.error (.tooLarge maxValueSize), s)
    | _ => (.error .invalidTarget, s)

/-- Applies a write to each of the components, noting those that were there. -/
def writeEach (ids : List String) (write : σ → String → Bool × σ) : Run σ Unit := fun s =>
  (.ok (), ids.foldl (fun s id =>
    let (done, host) := write s.host id
    { s with host, touched := if done then insertName id s.touched else s.touched }) s)

/-- Reads from the host. -/
def reading (read : σ → α) : Run σ α := fun s => (.ok (read s.host), s)

end Run

end WidgetFlow.Script
