import WidgetFlow.Script.Session
import WidgetFlow.Script.Method

/-!
# Running handler code

Expressions and statements run in a session by recursion on the syntax tree. Every expression and
every statement takes a step, counted before anything in it happens. Operands are evaluated from
left to right, and a failure stops the run where it occurs.

The result of a program is what its `return` gives, or else the value of its last expression
statement.
-/

namespace WidgetFlow.Script

variable {σ : Type} [Host σ]

/-- How a statement ends: control goes on behind it, or the program returns. -/
inductive Flow where
  | next
  | returned (result : Operand)

/-! ## Calls -/

/-- The components that the accessor selects. -/
def select (arg : Option Operand) : Run σ Operand := fun s =>
  match arg with
  | some (.value (.str raw)) =>
    let ids := match Selector.parse raw with
      | .self => s.selfId.toList
      | selector => Host.select s.host selector
    (.ok (.handle ids), s)
  | some (.handle ids) => (.ok (.handle ids), s)
  | some other =>
    (.error (.type s!"accessor expects a selector string, got {other.describe}"), s)
  | none => (.error (.type "accessor expects a selector"), s)

/-- A call of something that is no member. -/
def callOperand (callee : Operand) (args : List Operand) : Run σ Operand :=
  let first := args.head?.map Operand.toValue
  match callee with
  | .accessor => select args.head?
  | .global .string => return .value (.str ((first.map Value.toText).getD ""))
  | .global .number => return .value (.ofFloat ((first.map Value.toNumber).getD 0.0))
  | .global .boolean => return .value (.bool ((args.head?.map Operand.truthy).getD false))
  | other => throw (.notCallable other.describe)

/-- A call of a member of a global. -/
def callGlobal (g : Global) (method : String) (args : List Operand) : Run σ Operand :=
  match g with
  | .console =>
    if ["log", "info", "warn", "error", "debug"].contains method then fun s =>
      let line := " ".intercalate (args.map Operand.describe)
      (.ok .null, { s with host := Host.log s.host line })
    else throw (.unknownMethod "console" method)
  | .math => do return .value (← Run.lift (mathFunction method (args.map Operand.toValue)))
  | _ => throw (.unknownMethod "global" method)

/-- A call of a member of selected components. Reads look at the first component, writes go to
each. -/
def callHandle (ids : List String) (method : String) (args : List Operand) : Run σ Operand :=
  let args := args.map Operand.toValue
  let key := argText args 0
  let new := (args[1]?).getD .null
  let read (f : σ → String → Option Value) : Run σ Operand := do
    return .value (← Run.reading fun h => (ids.head?.bind (f h)).getD .null)
  let write (f : σ → String → Bool × σ) : Run σ Operand := do
    Run.writeEach ids f
    return .handle ids
  match method with
  | "getProperty" => read fun h id => View.property h id key
  | "getStyle" => read fun h id => View.style h id key
  | "getState" =>
    if args.isEmpty then read fun h id => (View.properties h id).map .obj
    else read fun h id => View.stateValue h id key
  | "setProperty" => write fun h id => View.setProperty h id key new
  | "setStyle" => write fun h id => View.setStyle h id key new
  | "addClass" => write fun h id => View.addClass h id key
  | "removeClass" => write fun h id => View.removeClass h id key
  | "show" => write fun h id => View.setHidden h id false
  | "hide" => write fun h id => View.setHidden h id true
  | "emit" => write fun h id => (true, Host.emit h id key new)
  | _ => throw (.unknownMethod "component handle" method)

/-- A call of a member. -/
def callMember (receiver : Operand) (method : String) (args : List Operand) : Run σ Operand :=
  match receiver with
  | .value v => do return .value (← Run.lift (valueMethod v method (args.map Operand.toValue)))
  | .handle ids => callHandle ids method args
  | .global g => callGlobal g method args
  | .accessor => throw (.unknownMethod "accessor" method)

/-! ## Expressions -/

mutual
/-- Evaluates an expression. -/
def eval : Expr → Run σ Operand
  | .literal v => do
    Run.tick
    return .value v
  | .array items => do
    Run.tick
    return .value (← Run.lift (checked (.arr (← evalItems items))))
  | .object entries => do
    Run.tick
    return .value (← Run.lift (checked (.obj (Dict.ofEntries (← evalEntries entries)))))
  | .var name => do
    Run.tick
    Run.resolveName name
  | .member base name => do
    Run.tick
    return .value (member (← eval base) name)
  | .index base index => do
    Run.tick
    let base ← eval base
    let index ← eval index
    return .value (indexValue base index.toValue)
  | .call (.member base method) args => do
    Run.tick
    let receiver ← eval base
    let args ← evalArgs args
    callMember receiver method args
  | .call callee args => do
    Run.tick
    let callee ← eval callee
    let args ← evalArgs args
    callOperand callee args
  | .unary .not operand => do
    Run.tick
    return .value (.bool !(← eval operand).truthy)
  | .unary .neg operand => do
    Run.tick
    return .value (.ofFloat (-(← eval operand).toValue.toNumber))
  | .binary .and left right => do
    Run.tick
    let left ← eval left
    if left.truthy then eval right else return left
  | .binary .or left right => do
    Run.tick
    let left ← eval left
    if left.truthy then return left else eval right
  | .binary op left right => do
    Run.tick
    let left ← eval left
    let right ← eval right
    return .value (← Run.lift (checked (binary op left right)))
  | .cond test yes no => do
    Run.tick
    if (← eval test).truthy then eval yes else eval no
/-- Evaluates the items of a list. -/
def evalItems : List Expr → Run σ (List Value)
  | [] => return []
  | e :: rest => do
    let v ← eval e
    return v.toValue :: (← evalItems rest)
/-- Evaluates the entries of a record. -/
def evalEntries : List (String × Expr) → Run σ (List (String × Value))
  | [] => return []
  | (k, e) :: rest => do
    let v ← eval e
    return (k, v.toValue) :: (← evalEntries rest)
/-- Evaluates the arguments of a call. -/
def evalArgs : List Expr → Run σ (List Operand)
  | [] => return []
  | e :: rest => do
    let v ← eval e
    return v :: (← evalArgs rest)
end

/-! ## Statements -/

/-- The variable at the root of a place, and the path below it. -/
def placePath : Expr → Run σ (String × List PathStep)
  | .var name => return (name, [])
  | .member base name => do
    let (root, path) ← placePath base
    return (root, path ++ [.key name])
  | .index base index => do
    let (root, path) ← placePath base
    let index ← eval index
    return (root, path ++ [.index index.toValue])
  | _ => throw .invalidTarget

/-- Assigns to a place. -/
def assign (target : Expr) (held : Operand) : Run σ Unit := do
  let (root, path) ← placePath target
  if path.isEmpty then Run.assignVariable root held
  else Run.assignBelow root path held.toValue

/-- What an assignment stores, given the evaluated right-hand side. -/
def assigned (target : Expr) (op : AssignOp) (right : Operand) : Run σ Operand :=
  match op with
  | .set => return right
  | .add => do
    let current ← eval target
    return .value (← Run.lift (checked (add current.toValue right.toValue)))
  | .sub => do
    let current ← eval target
    return .value (.ofFloat (current.toValue.toNumber - right.toValue.toNumber))

/-- Notes the value of an expression statement. -/
def complete (value : Operand) : Run σ Unit := modify fun s => { s with completion := value }

/-- Evaluates an expression if there is one, and gives null otherwise. -/
def evalOption : Option Expr → Run σ Operand
  | some e => eval e
  | none => return .null

mutual
/-- Runs a statement. -/
def exec : Stmt → Run σ Flow
  | .empty => do
    Run.tick
    return .next
  | .expr e => do
    Run.tick
    complete (← eval e)
    return .next
  | .decl kind name init => do
    Run.tick
    Run.declare kind name (← evalOption init)
    return .next
  | .assign target op value => do
    Run.tick
    let right ← eval value
    assign target (← assigned target op right)
    return .next
  | .branch test yes none => do
    Run.tick
    if (← eval test).truthy then Run.inScope (exec yes) else return .next
  | .branch test yes (some no) => do
    Run.tick
    if (← eval test).truthy then Run.inScope (exec yes) else Run.inScope (exec no)
  | .ret value => do
    Run.tick
    return .returned (← evalOption value)
  | .block body => do
    Run.tick
    Run.inScope (execAll body)
/-- Runs statements in turn, up to the first that returns. -/
def execAll : List Stmt → Run σ Flow
  | [] => return .next
  | stmt :: rest => do
    match ← exec stmt with
    | .returned result => return .returned result
    | .next => execAll rest
end

/-- Runs a program. Ending without a return takes the value of the last expression statement out of
the session. -/
def runProgram (body : List Stmt) : Run σ Operand := do
  match ← execAll body with
  | .returned result => return result
  | .next =>
    let s ← get
    set { s with completion := Operand.null }
    return s.completion

end WidgetFlow.Script
