import WidgetFlow.Proofs.Script.Calls
import WidgetFlow.Script.Handler

/-!
# Walking through handler code

What holds of all handler code is shown by a walk through the syntax tree, and the walk is the same
whatever is shown. It needs to know of a property of computations, and of the calls they make, only
that it passes on along `bind` and into scopes, and that it holds of the few computations that the
evaluator is made of. `TracedWalks P` lists these. Most of them work on variables only
(`Run.Plain`); what is left is to take a step, to select components, to read and to write through a
handle, and to print a line.

Expressions are made of less than statements, as they neither declare a variable nor assign to one.
`TracedEvaluates P` lists what a property needs that is shown of expressions only. `Walks P` and
`Evaluates P` are for properties that do not look at the calls.

## Main results

* `Run.Plain.aside`, `Run.Aside.host`: a computation on variables leaves the host alone.
* `eval_traced`, `exec_traced`, `runProgram_traced`: what passes on holds of expressions, of
  statements and of programs, with their calls.
* `eval_walks`, `runProgram_walks`: what passes on holds of expressions and of programs.
-/

namespace WidgetFlow.Script

variable {σ : Type} {α β : Type}

/-- The second of two computations in turn runs where the first one succeeds. -/
theorem Run.bind_apply (run : Run σ α) (f : α → Run σ β) (s : Session σ) :
    (run >>= f) s = match run s with
      | (.ok a, t) => f a t
      | (.error e, t) => (.error e, t) := by
  change ExceptT.bindCont f (run s).1 (run s).2 = _
  generalize run s = out
  obtain ⟨result, t⟩ := out
  cases result <;> rfl

/-! ### Computations on variables -/

namespace Session

/-- A session with another outermost scope. -/
def withOuter (s : Session σ) (outer : Scope) : Session σ := { s with outer }

/-- A session with other inner scopes. -/
def withInner (s : Session σ) (inner : List Scope) : Session σ := { s with inner }

/-- A session with another value of the last statement. -/
def withCompletion (s : Session σ) (completion : Operand) : Session σ := { s with completion }

/-- Replacing what a variable holds sets the inner scopes or the outermost one. -/
theorem replace_eq (s : Session σ) (name : String) (held : Operand) :
    s.replace name held = match replaceIn name held s.inner with
      | some inner => s.withInner inner
      | none => s.withOuter (Dict.modify s.outer name fun b => { b with held }) :=
  rfl

/-- The scope that a declaration belongs to. -/
def declaredIn (s : Session σ) (kind : DeclKind) : Scope :=
  match kind, s.inner with
  | .handler, _ => s.outer
  | _, [] => s.outer
  | _, scope :: _ => scope

/-- Whether a name is taken in the scope that a declaration belongs to. -/
def clashes (s : Session σ) (kind : DeclKind) (name : String) : Bool :=
  match Dict.get? (s.declaredIn kind) name with
  | some old => kind != DeclKind.handler || old.constant
  | none => false

/-- A declaration sets the outermost scope or the innermost one, unless the name is taken there. -/
theorem declare_eq (s : Session σ) (kind : DeclKind) (name : String) (held : Operand) :
    s.declare kind name held = if s.clashes kind name then .error (.redeclared name)
      else
        let scope := Dict.insert (s.declaredIn kind) name ⟨held, kind == DeclKind.constant⟩
        match kind, s.inner with
        | .handler, _ => .ok (s.withOuter scope)
        | _, [] => .ok (s.withOuter scope)
        | _, _ :: rest => .ok (s.withInner (scope :: rest)) :=
  rfl

/-- A change of a session beside its variables, and beside the value of the last statement. -/
structure Beside (φ : Session σ → Session σ) : Prop where
  withOuter : ∀ s outer, φ (s.withOuter outer) = (φ s).withOuter outer
  withInner : ∀ s inner, φ (s.withInner inner) = (φ s).withInner inner
  withCompletion : ∀ s completion, φ (s.withCompletion completion) = (φ s).withCompletion completion

namespace Beside

variable {φ : Session σ → Session σ} (h : Beside φ) (s : Session σ)

include h

/-- The outermost scope is as it was. -/
theorem outer : (φ s).outer = s.outer := by
  have hset : φ s = (φ s).withOuter s.outer := h.withOuter s s.outer
  rw [hset]
  rfl

/-- The inner scopes are as they were. -/
theorem inner : (φ s).inner = s.inner := by
  have hset : φ s = (φ s).withInner s.inner := h.withInner s s.inner
  rw [hset]
  rfl

/-- The value of the last statement is as it was. -/
theorem completion : (φ s).completion = s.completion := by
  have hset : φ s = (φ s).withCompletion s.completion := h.withCompletion s s.completion
  rw [hset]
  rfl

/-- Names stand for what they stood for. -/
theorem lookup (name : String) : (φ s).lookup name = s.lookup name := by
  rw [Session.lookup, Session.lookup, h.outer, h.inner]

/-- A variable is bound anew in the same way. -/
theorem bind (name : String) (held : Operand) : (φ s).bind name held = φ (s.bind name held) := by
  change (φ s).withOuter (Dict.insert (φ s).outer name _) = φ (s.withOuter _)
  rw [h.outer, h.withOuter]

/-- What a variable holds is replaced in the same way. -/
theorem replace (name : String) (held : Operand) :
    (φ s).replace name held = φ (s.replace name held) := by
  rw [replace_eq, replace_eq, h.inner, h.outer]
  cases Session.replaceIn name held s.inner with
  | some inner => exact (h.withInner s inner).symm
  | none => exact (h.withOuter s _).symm

/-- A declaration belongs to the same scope. -/
theorem declaredIn (kind : DeclKind) : (φ s).declaredIn kind = s.declaredIn kind := by
  unfold Session.declaredIn
  rw [h.inner, h.outer]

/-- The same names are taken. -/
theorem clashes (kind : DeclKind) (name : String) :
    (φ s).clashes kind name = s.clashes kind name := by
  unfold Session.clashes
  rw [h.declaredIn]

/-- A variable is declared in the same way. -/
theorem declare (kind : DeclKind) (name : String) (held : Operand) :
    (φ s).declare kind name held = (s.declare kind name held).map φ := by
  rw [declare_eq, declare_eq, h.clashes, h.declaredIn, h.inner]
  have houter := fun outer => congrArg (Except.ok (ε := RunError)) (h.withOuter s outer).symm
  split
  · rfl
  · cases kind with
    | handler => exact houter _
    | _ =>
      cases s.inner with
      | nil => exact houter _
      | cons scope rest => exact congrArg Except.ok (h.withInner s _).symm

end Beside

end Session

/-- A computation works on variables only: it does the same whatever else is in the session, and
leaves all that as it is. -/
def Run.Plain (run : Run σ α) : Prop :=
  ∀ φ : Session σ → Session σ, Session.Beside φ → ∀ s, run (φ s) = ((run s).1, φ (run s).2)

namespace Run

/-- A pure computation is plain. -/
theorem plain_lift (result : Except RunError α) : Plain (lift result : Run σ α) := fun _ _ _ => rfl

/-- Looking a name up is plain. -/
theorem plain_resolveName (name : String) : Plain (resolveName name : Run σ Operand) :=
  fun _ h s => by
    unfold resolveName
    rw [h.lookup]
    cases s.lookup name with
    | some b => rfl
    | none =>
        dsimp only
        split <;> rfl

/-- Declaring a variable is plain. -/
theorem plain_declare (kind : DeclKind) (name : String) (held : Operand) :
    Plain (declare kind name held : Run σ Unit) := fun _ h s => by
  rw [declare, declare, h.declare]
  cases s.declare kind name held <;> rfl

/-- Assigning to a variable is plain. -/
theorem plain_assignVariable (name : String) (held : Operand) :
    Plain (assignVariable name held : Run σ Unit) := fun _ h s => by
  rw [assignVariable, assignVariable, h.lookup, h.replace, h.bind]
  cases s.lookup name with
  | none => rfl
  | some b =>
      dsimp only
      split <;> rfl

/-- Writing below a variable is plain. -/
theorem plain_assignBelow (name : String) (path : List PathStep) (new : Value) :
    Plain (assignBelow name path new : Run σ Unit) := fun _ h s => by
  rw [assignBelow, assignBelow, h.lookup]
  cases s.lookup name with
  | none => rfl
  | some b =>
      obtain ⟨held, constant⟩ := b
      cases held with
      | value old =>
          dsimp only
          rw [h.replace]
          cases (write new path old).1 with
          | error e => rfl
          | ok _ =>
              dsimp only
              split <;> rfl
      | _ => rfl

end Run

/-- Noting the value of a statement is plain. -/
theorem plain_complete (value : Operand) : Run.Plain (complete value : Run σ Unit) :=
  fun _ h s => Prod.ext rfl (h.withCompletion s value).symm

/-- Takes the value of the last statement out of the session. -/
def takeCompletion : Run σ Operand := do
  let s ← get
  set { s with completion := Operand.null }
  return s.completion

/-- Taking the value of the last statement is plain. -/
theorem plain_takeCompletion : Run.Plain (takeCompletion : Run σ Operand) := fun _ h s =>
  Prod.ext (congrArg Except.ok (h.completion s)) (h.withCompletion s .null).symm

/-! ### Computations without the host -/

/-- A session over another host, and with other components noted as written. -/
def Session.with (s : Session σ) (host : σ) (touched : List String) : Session σ :=
  { s with host, touched }

/-- A computation neither looks at the host nor at the components written so far, and leaves both
alone. -/
def Run.Aside (run : Run σ α) : Prop :=
  ∀ s host touched, run (s.with host touched) = ((run s).1, (run s).2.with host touched)

namespace Run

/-- A computation without the host leaves the host and the components written alone. -/
theorem Aside.host {run : Run σ α} (h : Aside run) (s : Session σ) :
    (run s).2.host = s.host ∧ (run s).2.touched = s.touched := by
  have hrun : run s = ((run s).1, (run s).2.with s.host s.touched) := h s s.host s.touched
  rw [hrun]
  exact ⟨rfl, rfl⟩

/-- What works on variables only needs no host. -/
theorem Plain.aside {run : Run σ α} (h : Plain run) : Aside run := fun s host touched =>
  h (·.with host touched) ⟨fun _ _ => rfl, fun _ _ => rfl, fun _ _ => rfl⟩ s

/-- Taking a step needs no host. -/
theorem aside_tick : Aside (tick : Run σ Unit) := fun s host touched => by
  dsimp only [tick, Session.with]
  by_cases h : s.maxSteps < s.steps + 1
  · rw [if_pos h, if_pos h]
  · rw [if_neg h, if_neg h]

end Run

/-! ### Properties that pass on -/

/-- A property of computations passes on to what is put together from them, and holds of everything
that expressions are put together from. -/
structure Evaluates [Host σ] (P : ∀ α : Type, Run σ α → Prop) : Prop where
  lift : ∀ {α : Type} (result : Except RunError α), P α (Run.lift result)
  tick : P Unit Run.tick
  resolveName : ∀ name, P Operand (Run.resolveName name)
  bind : ∀ {α β : Type} {run : Run σ α} {next : α → Run σ β},
    P α run → (∀ a, P β (next a)) → P β (run >>= next)
  select : ∀ arg, P Operand (select arg)
  read : ∀ (ids : List String) (r : HandleRead),
    P Value (Run.reading fun h => (ids.head?.bind fun id => r.run h id).getD .null)
  write : ∀ ids (w : HandleWrite), P Unit (Run.writeEach ids fun h id => w.run h id)
  log : ∀ line, P Operand fun s => (.ok .null, { s with host := Host.log s.host line })

/-- A property of computations passes on to what is put together from them, and holds of everything
that handler code is put together from. -/
structure Walks [Host σ] (P : ∀ α : Type, Run σ α → Prop) : Prop where
  aside : ∀ {α : Type} {run : Run σ α}, run.Aside → P α run
  bind : ∀ {α β : Type} {run : Run σ α} {next : α → Run σ β},
    P α run → (∀ a, P β (next a)) → P β (run >>= next)
  inScope : ∀ {α : Type} {run : Run σ α}, P α run → P α (Run.inScope run)
  select : ∀ arg, P Operand (select arg)
  read : ∀ (ids : List String) (r : HandleRead),
    P Value (Run.reading fun h => (ids.head?.bind fun id => r.run h id).getD .null)
  write : ∀ ids (w : HandleWrite), P Unit (Run.writeEach ids fun h id => w.run h id)
  log : ∀ line, P Operand fun s => (.ok .null, { s with host := Host.log s.host line })

/-! ### Properties of computations with their calls -/

/-- A method of selected components reads something of the first one, or writes something to each of
them. -/
theorem callHandle_eq [Host σ] (ids : List String) (method : String) (args : List Operand) :
    (callHandle ids method args : Run σ Operand) = match handleRequest? method args with
      | some (.inl r) => do
        return .value (← Run.reading fun h => (ids.head?.bind fun id => r.run h id).getD .null)
      | some (.inr w) => do
        Run.writeEach ids fun h id => w.run h id
        return .handle ids
      | none => throw (.unknownMethod "component handle" method) := by
  unfold callHandle
  dsimp only
  split
  case h_3 =>
    rw [handleRequest?]
    split <;> rfl
  case h_11 => rw [handleRequest?] <;> assumption
  all_goals rfl

/-- The calls of a computation that is followed by one without calls. -/
theorem Calls.andThen_none (calls : Calls σ) (run : Run σ α) :
    Calls.andThen calls run (fun _ => .none) = calls := by
  funext s
  rw [Calls.andThen]
  split <;> exact List.append_nil _

/-- A property of computations and of the calls they make passes on to what is put together from
them, and holds of everything that expressions are put together from. -/
structure TracedEvaluates [Host σ] (P : ∀ α : Type, Calls σ → Run σ α → Prop) : Prop where
  lift : ∀ {α : Type} (result : Except RunError α), P α .none (Run.lift result)
  tick : P Unit .none Run.tick
  resolveName : ∀ name, P Operand .none (Run.resolveName name)
  bind : ∀ {α β : Type} {calls : Calls σ} {run : Run σ α} {more : α → Calls σ}
    {next : α → Run σ β}, P α calls run → (∀ a, P β (more a) (next a)) →
      P β (.andThen calls run more) (run >>= next)
  select : ∀ arg, P Operand (fun _ => selectCalls arg) (select arg)
  read : ∀ (ids : List String) (r : HandleRead), P Value (fun _ => readCalls ids r)
    (Run.reading fun h => (ids.head?.bind fun id => r.run h id).getD .null)
  write : ∀ ids (w : HandleWrite),
    P Unit (fun _ => writeCalls ids w) (Run.writeEach ids fun h id => w.run h id)
  log : ∀ line, P Operand (fun _ => [.log line])
    fun s => (.ok .null, { s with host := Host.log s.host line })

/-- A property of computations and of the calls they make passes on to what is put together from
them, and holds of everything that handler code is put together from. -/
structure TracedWalks [Host σ] (P : ∀ α : Type, Calls σ → Run σ α → Prop) : Prop where
  plain : ∀ {α : Type} {run : Run σ α}, run.Plain → P α .none run
  tick : P Unit .none Run.tick
  bind : ∀ {α β : Type} {calls : Calls σ} {run : Run σ α} {more : α → Calls σ}
    {next : α → Run σ β}, P α calls run → (∀ a, P β (more a) (next a)) →
      P β (.andThen calls run more) (run >>= next)
  inScope : ∀ {α : Type} {calls : Calls σ} {run : Run σ α},
    P α calls run → P α calls.inScope (Run.inScope run)
  select : ∀ arg, P Operand (fun _ => selectCalls arg) (select arg)
  read : ∀ (ids : List String) (r : HandleRead), P Value (fun _ => readCalls ids r)
    (Run.reading fun h => (ids.head?.bind fun id => r.run h id).getD .null)
  write : ∀ ids (w : HandleWrite),
    P Unit (fun _ => writeCalls ids w) (Run.writeEach ids fun h id => w.run h id)
  log : ∀ line, P Operand (fun _ => [.log line])
    fun s => (.ok .null, { s with host := Host.log s.host line })

/-- What passes on for all handler code does so for expressions. -/
theorem TracedWalks.evaluates [Host σ] {P : ∀ α : Type, Calls σ → Run σ α → Prop}
    (hP : TracedWalks P) : TracedEvaluates P where
  lift result := hP.plain (Run.plain_lift result)
  tick := hP.tick
  resolveName name := hP.plain (Run.plain_resolveName name)
  bind := hP.bind
  select := hP.select
  read := hP.read
  write := hP.write
  log := hP.log

/-- A property of computations is one that does not look at their calls. -/
theorem Evaluates.traced [Host σ] {P : ∀ α : Type, Run σ α → Prop} (hP : Evaluates P) :
    TracedEvaluates fun α _ run => P α run where
  lift := hP.lift
  tick := hP.tick
  resolveName := hP.resolveName
  bind := hP.bind
  select := hP.select
  read := hP.read
  write := hP.write
  log := hP.log

/-- A property of computations is one that does not look at their calls. -/
theorem Walks.traced [Host σ] {P : ∀ α : Type, Run σ α → Prop} (hP : Walks P) :
    TracedWalks fun α _ run => P α run where
  plain h := hP.aside h.aside
  tick := hP.aside Run.aside_tick
  bind := hP.bind
  inScope := hP.inScope
  select := hP.select
  read := hP.read
  write := hP.write
  log := hP.log

section Expressions

variable [Host σ] {P : ∀ α : Type, Calls σ → Run σ α → Prop} (hP : TracedEvaluates P)

include hP

/-- The property holds of giving a result. -/
theorem pure_traced (a : α) : P α .none (pure a) := hP.lift (.ok a)

/-- The property holds of failing. -/
theorem throw_traced (e : RunError) : P α .none (throw e) := hP.lift (.error e)

/-- The property holds of a computation that is followed by one without calls. -/
theorem bind_traced {calls : Calls σ} {run : Run σ α} {next : α → Run σ β} (h : P α calls run)
    (hnext : ∀ a, P β .none (next a)) : P β calls (run >>= next) := by
  have hbind := hP.bind h hnext
  rwa [Calls.andThen_none] at hbind

/-- The property holds of a pure computation whose result is passed on. -/
theorem lift_traced (result : Except RunError α) {f : α → β} :
    P β .none (Run.lift result >>= fun a => pure (f a)) :=
  bind_traced hP (hP.lift result) fun _ => pure_traced hP _

/-- The property holds of a computation after a step. -/
theorem tick_traced {calls : Calls σ} {run : Run σ α} (h : P α calls run) :
    P α calls.stepping (Run.tick >>= fun _ => run) :=
  hP.bind hP.tick fun _ => h

/-! ### Calls of operands -/

/-- The property holds of a call of something that is no member. -/
theorem callOperand_traced (callee : Operand) (args : List Operand) :
    P Operand (fun _ => operandCalls callee args) (callOperand callee args) := by
  cases callee with
  | accessor => exact hP.select _
  | global g =>
      cases g with
      | string | number | boolean => exact pure_traced hP _
      | math | console => exact throw_traced hP _
  | value | handle => exact throw_traced hP _

/-- The property holds of a call of a member of a global. -/
theorem callGlobal_traced (g : Global) (method : String) (args : List Operand) :
    P Operand (fun _ => globalCalls g method args) (callGlobal g method args) := by
  unfold callGlobal globalCalls
  cases g with
  | console =>
      dsimp only
      split
      · exact hP.log _
      · exact throw_traced hP _
  | math => exact lift_traced hP _
  | _ => exact throw_traced hP _

/-- The property holds of a call of a member of selected components. -/
theorem callHandle_traced (ids : List String) (method : String) (args : List Operand) :
    P Operand (fun _ => handleCalls ids method args) (callHandle ids method args) := by
  rw [callHandle_eq, handleCalls]
  match handleRequest? method args with
  | some (.inl r) => exact bind_traced hP (hP.read ids r) fun _ => pure_traced hP _
  | some (.inr w) => exact bind_traced hP (hP.write ids w) fun _ => pure_traced hP _
  | none => exact throw_traced hP _

/-- The property holds of a call of a member. -/
theorem callMember_traced (receiver : Operand) (method : String) (args : List Operand) :
    P Operand (fun _ => memberCalls receiver method args) (callMember receiver method args) := by
  cases receiver with
  | value v => exact lift_traced hP _
  | handle ids => exact callHandle_traced hP ids method args
  | global g => exact callGlobal_traced hP g method args
  | accessor => exact throw_traced hP _

/-! ### Expressions -/

mutual

/-- The property holds of every expression. -/
theorem eval_traced : ∀ e : Expr, P Operand (exprCalls e) (eval e)
  | .literal v => by
      rw [exprCalls, eval]
      exact tick_traced hP (pure_traced hP _)
  | .array items => by
      rw [exprCalls, eval]
      exact tick_traced hP (bind_traced hP (evalItems_traced items) fun _ => lift_traced hP _)
  | .object entries => by
      rw [exprCalls, eval]
      exact tick_traced hP (bind_traced hP (evalEntries_traced entries) fun _ => lift_traced hP _)
  | .var name => by
      rw [exprCalls, eval]
      exact tick_traced hP (hP.resolveName name)
  | .member base name => by
      rw [exprCalls, eval]
      exact tick_traced hP (bind_traced hP (eval_traced base) fun _ => pure_traced hP _)
  | .index base index => by
      rw [exprCalls, eval]
      exact tick_traced hP (hP.bind (eval_traced base) fun _ =>
        bind_traced hP (eval_traced index) fun _ => pure_traced hP _)
  | .call callee args => by
      have hcallee := eval_traced callee
      have hargs := evalArgs_traced args
      cases callee with
      | member base method =>
          have hbase := eval_traced base
          rw [exprCalls, eval]
          exact tick_traced hP (hP.bind hbase fun _ =>
            hP.bind hargs fun _ => callMember_traced hP _ method _)
      | _ =>
          simp only [exprCalls, eval] at hcallee ⊢
          exact tick_traced hP (hP.bind hcallee fun _ =>
            hP.bind hargs fun _ => callOperand_traced hP _ _)
  | .unary op operand => by
      cases op with
      | _ =>
        rw [exprCalls, eval]
        exact tick_traced hP (bind_traced hP (eval_traced operand) fun _ => pure_traced hP _)
  | .binary op left right => by
      have hleft := eval_traced left
      have hright := eval_traced right
      cases op with
      | and =>
          rw [exprCalls, eval]
          refine tick_traced hP (hP.bind hleft fun v => ?_)
          rw [BinaryOp.settledBy]
          cases v.truthy with
          | true => exact hright
          | false => exact pure_traced hP v
      | or =>
          rw [exprCalls, eval]
          refine tick_traced hP (hP.bind hleft fun v => ?_)
          rw [BinaryOp.settledBy]
          cases v.truthy with
          | true => exact pure_traced hP v
          | false => exact hright
      | _ =>
          simp only [exprCalls, eval]
          exact tick_traced hP (hP.bind hleft fun _ =>
            bind_traced hP hright fun _ => lift_traced hP _)
  | .cond test yes no => by
      rw [exprCalls, eval]
      refine tick_traced hP (hP.bind (eval_traced test) fun v => ?_)
      split
      · exact eval_traced yes
      · exact eval_traced no

/-- The property holds of the items of a list. -/
theorem evalItems_traced : ∀ items : List Expr, P (List Value) (itemsCalls items) (evalItems items)
  | [] => by
      rw [itemsCalls, evalItems]
      exact pure_traced hP _
  | e :: rest => by
      rw [itemsCalls, evalItems]
      exact hP.bind (eval_traced e) fun _ =>
        bind_traced hP (evalItems_traced rest) fun _ => pure_traced hP _

/-- The property holds of the entries of a record. -/
theorem evalEntries_traced : ∀ entries : List (String × Expr),
    P (List (String × Value)) (entriesCalls entries) (evalEntries entries)
  | [] => by
      rw [entriesCalls, evalEntries]
      exact pure_traced hP _
  | (k, e) :: rest => by
      rw [entriesCalls, evalEntries]
      exact hP.bind (eval_traced e) fun _ =>
        bind_traced hP (evalEntries_traced rest) fun _ => pure_traced hP _

/-- The property holds of the arguments of a call. -/
theorem evalArgs_traced : ∀ args : List Expr, P (List Operand) (argsCalls args) (evalArgs args)
  | [] => by
      rw [argsCalls, evalArgs]
      exact pure_traced hP _
  | e :: rest => by
      rw [argsCalls, evalArgs]
      exact hP.bind (eval_traced e) fun _ =>
        bind_traced hP (evalArgs_traced rest) fun _ => pure_traced hP _

end

/-- The property holds of finding a place. -/
theorem placePath_traced :
    ∀ target : Expr, P (String × List PathStep) (placeCalls target) (placePath target)
  | .var name => by
      rw [placeCalls, placePath]
      exact pure_traced hP _
  | .member base name => by
      rw [placeCalls, placePath]
      exact bind_traced hP (placePath_traced base) fun _ => pure_traced hP _
  | .index base index => by
      rw [placeCalls, placePath]
      exact hP.bind (placePath_traced base) fun _ =>
        bind_traced hP (eval_traced hP index) fun _ => pure_traced hP _
  | .literal _ | .array _ | .object _ | .call _ _ | .unary _ _ | .binary _ _ _ | .cond _ _ _ =>
      throw_traced hP _

/-- The property holds of finding what an assignment stores. -/
theorem assigned_traced (target : Expr) (op : AssignOp) (right : Operand) :
    P Operand (assignedCalls target op) (assigned target op right) := by
  cases op with
  | set => exact pure_traced hP right
  | add => exact bind_traced hP (eval_traced hP target) fun _ => lift_traced hP _
  | sub => exact bind_traced hP (eval_traced hP target) fun _ => pure_traced hP _

/-- The property holds of an optional expression. -/
theorem evalOption_traced (e : Option Expr) : P Operand (optionCalls e) (evalOption e) := by
  cases e with
  | none => exact pure_traced hP _
  | some e => exact eval_traced hP e

end Expressions

/-! ### Statements -/

section Statements

variable [Host σ] {P : ∀ α : Type, Calls σ → Run σ α → Prop} (hP : TracedWalks P)

include hP

/-- The property holds of a computation on variables that is followed by a result. -/
theorem plain_traced {run : Run σ α} (h : run.Plain) (b : β) :
    P β .none (run >>= fun _ => pure b) :=
  bind_traced hP.evaluates (hP.plain h) fun _ => pure_traced hP.evaluates b

/-- The property holds of an assignment to a place. -/
theorem assign_traced (target : Expr) (held : Operand) :
    P Unit (placeCalls target) (assign target held) := by
  rw [assign]
  refine bind_traced hP.evaluates (placePath_traced hP.evaluates target) fun (root, path) => ?_
  dsimp only
  split
  · exact hP.plain (Run.plain_assignVariable root held)
  · exact hP.plain (Run.plain_assignBelow root path held.toValue)

mutual

/-- The property holds of every statement. -/
theorem exec_traced : ∀ stmt : Stmt, P Flow (stmtCalls stmt) (exec stmt)
  | .empty => by
      rw [stmtCalls, exec]
      exact tick_traced hP.evaluates (pure_traced hP.evaluates _)
  | .expr e => by
      rw [stmtCalls, exec]
      exact tick_traced hP.evaluates (bind_traced hP.evaluates (eval_traced hP.evaluates e)
        fun v => plain_traced hP (plain_complete v) _)
  | .decl kind name init => by
      rw [stmtCalls, exec]
      exact tick_traced hP.evaluates (bind_traced hP.evaluates (evalOption_traced hP.evaluates init)
        fun held => plain_traced hP (Run.plain_declare kind name held) _)
  | .assign target op value => by
      rw [stmtCalls, exec]
      exact tick_traced hP.evaluates (hP.bind (eval_traced hP.evaluates value) fun right =>
        hP.bind (assigned_traced hP.evaluates target op right) fun held =>
          bind_traced hP.evaluates (assign_traced hP target held) fun _ =>
            pure_traced hP.evaluates _)
  | .branch test yes none => by
      rw [stmtCalls, exec]
      refine tick_traced hP.evaluates (hP.bind (eval_traced hP.evaluates test) fun v => ?_)
      split
      · exact hP.inScope (exec_traced yes)
      · exact pure_traced hP.evaluates _
  | .branch test yes (some no) => by
      rw [stmtCalls, exec]
      refine tick_traced hP.evaluates (hP.bind (eval_traced hP.evaluates test) fun v => ?_)
      split
      · exact hP.inScope (exec_traced yes)
      · exact hP.inScope (exec_traced no)
  | .ret value => by
      rw [stmtCalls, exec]
      exact tick_traced hP.evaluates (bind_traced hP.evaluates
        (evalOption_traced hP.evaluates value) fun _ => pure_traced hP.evaluates _)
  | .block body => by
      rw [stmtCalls, exec]
      exact tick_traced hP.evaluates (hP.inScope (execAll_traced body))

/-- The property holds of statements in turn. -/
theorem execAll_traced : ∀ body : List Stmt, P Flow (programCalls body) (execAll body)
  | [] => by
      rw [programCalls, execAll]
      exact pure_traced hP.evaluates _
  | stmt :: rest => by
      rw [programCalls, execAll]
      refine hP.bind (exec_traced stmt) fun flow => ?_
      cases flow with
      | next => exact execAll_traced rest
      | returned result => exact pure_traced hP.evaluates _

end

/-- The property holds of every program. -/
theorem runProgram_traced (body : List Stmt) : P Operand (programCalls body) (runProgram body) := by
  rw [runProgram]
  refine bind_traced hP.evaluates (execAll_traced hP body) fun flow => ?_
  cases flow with
  | next => exact hP.plain plain_takeCompletion
  | returned result => exact pure_traced hP.evaluates _

end Statements

/-! ### Properties of computations alone -/

section Evaluates

variable [Host σ] {P : ∀ α : Type, Run σ α → Prop} (hP : Evaluates P)

include hP

/-- What passes on holds of every expression. -/
theorem eval_walks (e : Expr) : P Operand (eval e) := eval_traced hP.traced e

/-- What passes on holds of finding a place. -/
theorem placePath_walks (target : Expr) : P (String × List PathStep) (placePath target) :=
  placePath_traced hP.traced target

/-- What passes on holds of finding what an assignment stores. -/
theorem assigned_walks (target : Expr) (op : AssignOp) (right : Operand) :
    P Operand (assigned target op right) :=
  assigned_traced hP.traced target op right

/-- What passes on holds of an optional expression. -/
theorem evalOption_walks (e : Option Expr) : P Operand (evalOption e) :=
  evalOption_traced hP.traced e

end Evaluates

/-- What passes on holds of every program. -/
theorem runProgram_walks [Host σ] {P : ∀ α : Type, Run σ α → Prop} (hP : Walks P)
    (body : List Stmt) : P Operand (runProgram body) :=
  runProgram_traced hP.traced body

end WidgetFlow.Script
