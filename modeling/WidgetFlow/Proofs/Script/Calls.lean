import WidgetFlow.Proofs.Script.Visit

/-!
# The calls of a host

A run of handler code calls its host: to select components, to read and to write through a handle,
and to print a line. `programCalls` lists these calls in the order in which they are made, with
their arguments. It follows the definition of the run clause by clause: the calls of the operands
come before the call that they are operands of, and nothing is called behind a failure.

A selector that stands for the component itself does not reach the host, and neither does a read
through an empty handle. A write through a handle is a call for each of the components.
-/

namespace WidgetFlow.Script

/-! ### Calls -/

/-- What is read through a handle. -/
inductive HandleRead where
  | property (key : String)
  | style (key : String)
  | stateValue (key : String)
  | properties

/-- What is written through a handle. -/
inductive HandleWrite where
  | setProperty (key : String) (v : Value)
  | setStyle (key : String) (v : Value)
  | addClass (name : String)
  | removeClass (name : String)
  | setHidden (hidden : Bool)
  | emit (point : String) (v : Value)

/-- Reads from a component of a host. -/
def HandleRead.run {σ : Type} [Host σ] (h : σ) (id : String) : HandleRead → Option Value
  | .property key => View.property h id key
  | .style key => View.style h id key
  | .stateValue key => View.stateValue h id key
  | .properties => (View.properties h id).map .obj

/-- Writes to a component of a host. -/
def HandleWrite.run {σ : Type} [Host σ] (h : σ) (id : String) : HandleWrite → Bool × σ
  | .setProperty key v => View.setProperty h id key v
  | .setStyle key v => View.setStyle h id key v
  | .addClass name => View.addClass h id name
  | .removeClass name => View.removeClass h id name
  | .setHidden hidden => View.setHidden h id hidden
  | .emit point v => (true, Host.emit h id point v)

/-- A call of a host. -/
inductive HostCall where
  | select (selector : Selector)
  | read (id : String) (r : HandleRead)
  | write (id : String) (w : HandleWrite)
  | log (line : String)

/-- The calls of a computation, given the session in which it starts. -/
abbrev Calls (σ : Type) := Session σ → List HostCall

namespace Calls

variable {σ α : Type}

/-- No calls. -/
def none : Calls σ := fun _ => []

/-- The calls of a computation, and then, if it succeeds, those of what comes next. -/
def andThen (first : Calls σ) (run : Run σ α) (next : α → Calls σ) : Calls σ := fun s =>
  first s ++ match run s with
    | (.ok a, t) => next a t
    | (.error _, _) => []

/-- The calls of what comes behind a step, if there is a step for it. -/
def stepping (below : Calls σ) : Calls σ := andThen none Run.tick fun _ => below

/-- The calls of a computation in a scope of its own. -/
def inScope (calls : Calls σ) : Calls σ := fun s => calls s.push

end Calls

/-! ### Calls of operands -/

/-- The call that selects components. -/
def selectCalls : Option Operand → List HostCall
  | some (.value (.str raw)) =>
    match Selector.parse raw with
    | .self => []
    | selector => [.select selector]
  | _ => []

/-- The calls of an operand that is called and is no member. -/
def operandCalls (callee : Operand) (args : List Operand) : List HostCall :=
  match callee with
  | .accessor => selectCalls args.head?
  | _ => []

/-- The call that prints a line. -/
def globalCalls (g : Global) (method : String) (args : List Operand) : List HostCall :=
  match g with
  | .console =>
    if ["log", "info", "warn", "error", "debug"].contains method then
      [.log (" ".intercalate (args.map Operand.describe))]
    else []
  | _ => []

/-- The calls that read something of the first component. -/
def readCalls (ids : List String) (r : HandleRead) : List HostCall :=
  (ids.head?.map fun id => .read id r).toList

/-- The calls that write something to each of the components. -/
def writeCalls (ids : List String) (w : HandleWrite) : List HostCall :=
  ids.map fun id => .write id w

/-- What a method of selected components reads or writes. -/
def handleRequest? (method : String) (args : List Operand) : Option (HandleRead ⊕ HandleWrite) :=
  let args := args.map Operand.toValue
  let key := argText args 0
  let new := (args[1]?).getD .null
  match method with
  | "getProperty" => some (.inl (.property key))
  | "getStyle" => some (.inl (.style key))
  | "getState" => some (.inl (if args.isEmpty then .properties else .stateValue key))
  | "setProperty" => some (.inr (.setProperty key new))
  | "setStyle" => some (.inr (.setStyle key new))
  | "addClass" => some (.inr (.addClass key))
  | "removeClass" => some (.inr (.removeClass key))
  | "show" => some (.inr (.setHidden false))
  | "hide" => some (.inr (.setHidden true))
  | "emit" => some (.inr (.emit key new))
  | _ => none

/-- The calls of a method of selected components. -/
def handleCalls (ids : List String) (method : String) (args : List Operand) : List HostCall :=
  match handleRequest? method args with
  | some (.inl r) => readCalls ids r
  | some (.inr w) => writeCalls ids w
  | none => []

/-- The calls of a member that is called. -/
def memberCalls (receiver : Operand) (method : String) (args : List Operand) : List HostCall :=
  match receiver with
  | .handle ids => handleCalls ids method args
  | .global g => globalCalls g method args
  | _ => []

/-! ### Calls of code -/

variable {σ : Type} [Host σ]

mutual
/-- The calls of an expression. -/
def exprCalls : Expr → Calls σ
  | .literal _ => .stepping .none
  | .array items => .stepping (itemsCalls items)
  | .object entries => .stepping (entriesCalls entries)
  | .var _ => .stepping .none
  | .member base _ => .stepping (exprCalls base)
  | .index base index =>
    .stepping <| .andThen (exprCalls base) (eval base) fun _ => exprCalls index
  | .call (.member base method) args =>
    .stepping <| .andThen (exprCalls base) (eval base) fun receiver =>
      .andThen (argsCalls args) (evalArgs args) fun args _ => memberCalls receiver method args
  | .call callee args =>
    .stepping <| .andThen (exprCalls callee) (eval callee) fun callee =>
      .andThen (argsCalls args) (evalArgs args) fun args _ => operandCalls callee args
  | .unary _ operand => .stepping (exprCalls operand)
  | .binary op left right =>
    .stepping <| .andThen (exprCalls left) (eval left) fun v =>
      if op.settledBy v then .none else exprCalls right
  | .cond test yes no =>
    .stepping <| .andThen (exprCalls test) (eval test) fun v =>
      if v.truthy then exprCalls yes else exprCalls no
/-- The calls of the items of a list. -/
def itemsCalls : List Expr → Calls σ
  | [] => .none
  | e :: rest => .andThen (exprCalls e) (eval e) fun _ => itemsCalls rest
/-- The calls of the entries of a record. -/
def entriesCalls : List (String × Expr) → Calls σ
  | [] => .none
  | (_, e) :: rest => .andThen (exprCalls e) (eval e) fun _ => entriesCalls rest
/-- The calls of the arguments of a call. -/
def argsCalls : List Expr → Calls σ
  | [] => .none
  | e :: rest => .andThen (exprCalls e) (eval e) fun _ => argsCalls rest
end

/-- The calls that find a place. -/
def placeCalls : Expr → Calls σ
  | .var _ => .none
  | .member base _ => placeCalls base
  | .index base index => .andThen (placeCalls base) (placePath base) fun _ => exprCalls index
  | _ => .none

/-- The calls that find what an assignment stores. -/
def assignedCalls (target : Expr) : AssignOp → Calls σ
  | .set => .none
  | .add => exprCalls target
  | .sub => exprCalls target

/-- The calls of an expression, if there is one. -/
def optionCalls : Option Expr → Calls σ
  | some e => exprCalls e
  | none => .none

mutual
/-- The calls of a statement. -/
def stmtCalls : Stmt → Calls σ
  | .empty => .stepping .none
  | .expr e => .stepping (exprCalls e)
  | .decl _ _ init => .stepping (optionCalls init)
  | .assign target op value =>
    .stepping <| .andThen (exprCalls value) (eval value) fun right =>
      .andThen (assignedCalls target op) (assigned target op right) fun _ => placeCalls target
  | .branch test yes none =>
    .stepping <| .andThen (exprCalls test) (eval test) fun v =>
      if v.truthy then .inScope (stmtCalls yes) else .none
  | .branch test yes (some no) =>
    .stepping <| .andThen (exprCalls test) (eval test) fun v =>
      if v.truthy then .inScope (stmtCalls yes) else .inScope (stmtCalls no)
  | .ret value => .stepping (optionCalls value)
  | .block body => .stepping (.inScope (programCalls body))
/-- The calls of statements in turn, up to the first that returns. -/
def programCalls : List Stmt → Calls σ
  | [] => .none
  | stmt :: rest =>
    .andThen (stmtCalls stmt) (exec stmt) fun flow =>
      match flow with
      | .returned _ => .none
      | .next => programCalls rest
end

end WidgetFlow.Script
