import WidgetFlow.Script.Eval

/-!
# The visits of a run

A run of handler code visits expressions and statements, each in the session that it finds.
`programVisits` lists these visits in order. It follows the definition of the run clause by clause:
what is visited next may depend on what has been computed so far, and nothing is visited behind a
failure.

Every visit takes the step that it starts with, so that the length of the list can be compared with
the number of steps of the run.
-/

namespace WidgetFlow.Script

/-- A visit: what is visited, and the session in which the visit starts. -/
inductive Visit (σ : Type) where
  | expr (e : Expr) (start : Session σ)
  | stmt (stmt : Stmt) (start : Session σ)

/-- The visits of a computation, given the session in which it starts. -/
abbrev Visits (σ : Type) := Session σ → List (Visit σ)

namespace Visits

variable {σ α : Type}

/-- No visits. -/
def none : Visits σ := fun _ => []

/-- The visits of a computation, and then, if it succeeds, those of what comes next. -/
def andThen (first : Visits σ) (run : Run σ α) (next : α → Visits σ) : Visits σ := fun s =>
  first s ++ match run s with
    | (.ok a, t) => next a t
    | (.error _, _) => []

/-- A visit, and then, if there is a step for it, the visits below. -/
def entering (visit : Session σ → Visit σ) (below : Visits σ) : Visits σ := fun s =>
  visit s :: andThen none Run.tick (fun _ => below) s

/-- The visits of a computation in a scope of its own. -/
def inScope (visits : Visits σ) : Visits σ := fun s => visits s.push

end Visits

variable {σ : Type} [Host σ]

/-- Whether the left operand alone decides what an operator gives. -/
def BinaryOp.settledBy : BinaryOp → Operand → Bool
  | .and, left => !left.truthy
  | .or, left => left.truthy
  | _, _ => false

mutual
/-- The visits of an expression. -/
def exprVisits : Expr → Visits σ
  | .literal v => .entering (.expr (.literal v)) .none
  | .array items => .entering (.expr (.array items)) (listVisits items)
  | .object entries => .entering (.expr (.object entries)) (entryVisits entries)
  | .var name => .entering (.expr (.var name)) .none
  | .member base name => .entering (.expr (.member base name)) (exprVisits base)
  | .index base index =>
    .entering (.expr (.index base index)) <|
      .andThen (exprVisits base) (eval base) fun _ => exprVisits index
  | .call (.member base method) args =>
    .entering (.expr (.call (.member base method) args)) <|
      .andThen (exprVisits base) (eval base) fun _ => listVisits args
  | .call callee args =>
    .entering (.expr (.call callee args)) <|
      .andThen (exprVisits callee) (eval callee) fun _ => listVisits args
  | .unary op operand => .entering (.expr (.unary op operand)) (exprVisits operand)
  | .binary op left right =>
    .entering (.expr (.binary op left right)) <|
      .andThen (exprVisits left) (eval left) fun v =>
        if op.settledBy v then .none else exprVisits right
  | .cond test yes no =>
    .entering (.expr (.cond test yes no)) <|
      .andThen (exprVisits test) (eval test) fun v =>
        if v.truthy then exprVisits yes else exprVisits no
/-- The visits of the items of a list, or of the arguments of a call. -/
def listVisits : List Expr → Visits σ
  | [] => .none
  | e :: rest => .andThen (exprVisits e) (eval e) fun _ => listVisits rest
/-- The visits of the entries of a record. -/
def entryVisits : List (String × Expr) → Visits σ
  | [] => .none
  | (_, e) :: rest => .andThen (exprVisits e) (eval e) fun _ => entryVisits rest
end

/-- The visits that find a place. -/
def placeVisits : Expr → Visits σ
  | .var _ => .none
  | .member base _ => placeVisits base
  | .index base index => .andThen (placeVisits base) (placePath base) fun _ => exprVisits index
  | _ => .none

/-- The visits that find what an assignment stores. -/
def assignedVisits (target : Expr) : AssignOp → Visits σ
  | .set => .none
  | .add => exprVisits target
  | .sub => exprVisits target

/-- The visits of an expression, if there is one. -/
def optionVisits : Option Expr → Visits σ
  | some e => exprVisits e
  | none => .none

mutual
/-- The visits of a statement. -/
def stmtVisits : Stmt → Visits σ
  | .empty => .entering (.stmt .empty) .none
  | .expr e => .entering (.stmt (.expr e)) (exprVisits e)
  | .decl kind name init => .entering (.stmt (.decl kind name init)) (optionVisits init)
  | .assign target op value =>
    .entering (.stmt (.assign target op value)) <|
      .andThen (exprVisits value) (eval value) fun right =>
      .andThen (assignedVisits target op) (assigned target op right) fun _ => placeVisits target
  | .branch test yes none =>
    .entering (.stmt (.branch test yes none)) <|
      .andThen (exprVisits test) (eval test) fun v =>
        if v.truthy then .inScope (stmtVisits yes) else .none
  | .branch test yes (some no) =>
    .entering (.stmt (.branch test yes (some no))) <|
      .andThen (exprVisits test) (eval test) fun v =>
        if v.truthy then .inScope (stmtVisits yes) else .inScope (stmtVisits no)
  | .ret value => .entering (.stmt (.ret value)) (optionVisits value)
  | .block body => .entering (.stmt (.block body)) (.inScope (programVisits body))
/-- The visits of statements in turn, up to the first that returns. -/
def programVisits : List Stmt → Visits σ
  | [] => .none
  | stmt :: rest =>
    .andThen (stmtVisits stmt) (exec stmt) fun flow =>
      match flow with
      | .returned _ => .none
      | .next => programVisits rest
end

end WidgetFlow.Script
