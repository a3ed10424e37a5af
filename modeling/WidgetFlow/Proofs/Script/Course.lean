import WidgetFlow.Proofs.Script.Observe

/-!
# The course of a run

Some statements act: they declare a variable, assign to one, note a value, or return. Blocks and
branches only run other statements, in a scope of their own. Whatever else happens in a run is
quiet, as it evaluates an expression: no variable changes then, and neither does the value of the
last statement.

So what a run does, and how it ends, is shown for the statements that act, and carried over quiet
stretches, into scopes and along statements in turn. `Course N R` lists what that takes of two
relations between the session before, the visits, the result and the session after: `R` is to hold
of every statement, and `N` of those that only run others.

## Main results

* `eval_quiet`: expressions are quiet.
* `exec_course`, `execAll_course`: `R` holds of every statement, and of statements in turn.
* `exec_nested`: `N` holds of blocks and branches.
-/

namespace WidgetFlow.Script

variable {σ : Type} {α β : Type} {s t u : Session σ} {vs ws : List (Visit σ)}

/-! ### Quiet stretches -/

/-- Whether a statement only runs others: a block or a branch. -/
def Stmt.nests : Stmt → Bool
  | .block _ => true
  | .branch _ _ _ => true
  | _ => false

/-- Whether a visit is one of a statement that acts. -/
def Visit.acts : Visit σ → Bool
  | .stmt code _ => !code.nests
  | .expr _ _ => false

/-- A stretch of a run in which no statement acts. -/
structure Quiet (s : Session σ) (visits : List (Visit σ)) (t : Session σ) : Prop where
  same : s.SameVariables t
  completion : t.completion = s.completion
  visits : ∀ v ∈ visits, v.acts = false

namespace Quiet

/-- Nothing happens in no time. -/
theorem refl (s : Session σ) : Quiet s [] s := ⟨.refl s, rfl, nofun⟩

/-- Two quiet stretches in turn. -/
theorem append (h : Quiet s vs t) (h' : Quiet t ws u) : Quiet s (vs ++ ws) u where
  same := h.same.trans h'.same
  completion := h'.completion.trans h.completion
  visits v hv := (List.mem_append.mp hv).elim (h.visits v) (h'.visits v)

end Quiet

/-- A computation leaves the value of the last statement alone. -/
def Run.Unnoted (run : Run σ α) : Prop := ∀ s, (run s).2.completion = s.completion

/-- Two computations in turn leave the value of the last statement alone. -/
theorem Run.Unnoted.bind {run : Run σ α} {next : α → Run σ β} (h : run.Unnoted)
    (hnext : ∀ a, (next a).Unnoted) : (run >>= next).Unnoted := fun s => by
  have hrun := h s
  rw [bind_apply]
  generalize run s = out at hrun
  obtain ⟨result, t⟩ := out
  cases result with
  | error e => exact hrun
  | ok a => exact (hnext a t).trans hrun

/-! ### Expressions are quiet -/

/-- Visits of no statement that acts. -/
def Visits.Idle (visits : Visits σ) : Prop := ∀ s, ∀ v ∈ visits s, v.acts = false

namespace Visits.Idle

/-- No visits at all. -/
theorem none : Idle (Visits.none : Visits σ) := fun _ => nofun

/-- The visits of two computations in turn. -/
theorem andThen {visits : Visits σ} {run : Run σ α} {more : α → Visits σ} (h : visits.Idle)
    (hmore : ∀ a, (more a).Idle) : (Visits.andThen visits run more).Idle := fun s v hv => by
  rcases List.mem_append.mp hv with hv | hv
  · exact h s v hv
  · split at hv
    · next a t _ => exact hmore a t v hv
    · exact nomatch hv

/-- The visits of an expression, given those below it. -/
theorem entering {below : Visits σ} (e : Expr) (h : below.Idle) :
    (Visits.entering (.expr e) below).Idle := fun s v hv => by
  rcases List.mem_cons.mp hv with rfl | hv
  · rfl
  · exact andThen none (fun _ => h) s v hv

end Visits.Idle

section Host

variable [Host σ]

mutual

/-- An expression visits no statement. -/
theorem exprVisits_idle : ∀ e : Expr, (exprVisits e : Visits σ).Idle
  | .literal v => by
      rw [exprVisits]
      exact .entering _ .none
  | .array items => by
      rw [exprVisits]
      exact .entering _ (listVisits_idle items)
  | .object entries => by
      rw [exprVisits]
      exact .entering _ (entryVisits_idle entries)
  | .var name => by
      rw [exprVisits]
      exact .entering _ .none
  | .member base name => by
      rw [exprVisits]
      exact .entering _ (exprVisits_idle base)
  | .index base index => by
      rw [exprVisits]
      exact .entering _ (.andThen (exprVisits_idle base) fun _ => exprVisits_idle index)
  | .call callee args => by
      have hcallee := exprVisits_idle callee
      have hargs := listVisits_idle args
      cases callee with
      | member base method =>
          have hbase := exprVisits_idle base
          rw [exprVisits]
          exact .entering _ (.andThen hbase fun _ => hargs)
      | _ =>
          simp only [exprVisits] at hcallee ⊢
          exact .entering _ (.andThen hcallee fun _ => hargs)
  | .unary op operand => by
      rw [exprVisits]
      exact .entering _ (exprVisits_idle operand)
  | .binary op left right => by
      rw [exprVisits]
      refine .entering _ (.andThen (exprVisits_idle left) fun v => ?_)
      split
      · exact .none
      · exact exprVisits_idle right
  | .cond test yes no => by
      rw [exprVisits]
      refine .entering _ (.andThen (exprVisits_idle test) fun v => ?_)
      split
      · exact exprVisits_idle yes
      · exact exprVisits_idle no

/-- The items of a list visit no statement. -/
theorem listVisits_idle : ∀ items : List Expr, (listVisits items : Visits σ).Idle
  | [] => by
      rw [listVisits]
      exact .none
  | e :: rest => by
      rw [listVisits]
      exact .andThen (exprVisits_idle e) fun _ => listVisits_idle rest

/-- The entries of a record visit no statement. -/
theorem entryVisits_idle : ∀ entries : List (String × Expr), (entryVisits entries : Visits σ).Idle
  | [] => by
      rw [entryVisits]
      exact .none
  | (_, e) :: rest => by
      rw [entryVisits]
      exact .andThen (exprVisits_idle e) fun _ => entryVisits_idle rest

end

/-- An optional expression visits no statement. -/
theorem optionVisits_idle (e : Option Expr) : (optionVisits e : Visits σ).Idle := by
  cases e with
  | none => exact .none
  | some e => exact exprVisits_idle e

/-- Finding a place visits no statement. -/
theorem placeVisits_idle : ∀ target : Expr, (placeVisits target : Visits σ).Idle
  | .var _ => by
      rw [placeVisits]
      exact .none
  | .member base _ => by
      rw [placeVisits]
      exact placeVisits_idle base
  | .index base index => by
      rw [placeVisits]
      exact .andThen (placeVisits_idle base) fun _ => exprVisits_idle index
  | .literal _ | .array _ | .object _ | .call _ _ | .unary _ _ | .binary _ _ _ | .cond _ _ _ =>
      Visits.Idle.none

/-- Finding what an assignment stores visits no statement. -/
theorem assignedVisits_idle (target : Expr) (op : AssignOp) :
    (assignedVisits target op : Visits σ).Idle := by
  cases op with
  | set => exact .none
  | _ => exact exprVisits_idle target

/-- A statement that acts visits no statement but itself. -/
theorem stmtVisits_act {stmt : Stmt} (h : stmt.nests = false) :
    ∃ below : Visits σ, below.Idle ∧ stmtVisits stmt = .entering (.stmt stmt) below := by
  cases stmt with
  | empty => exact ⟨_, .none, by rw [stmtVisits]⟩
  | expr e => exact ⟨_, exprVisits_idle e, by rw [stmtVisits]⟩
  | decl kind name init => exact ⟨_, optionVisits_idle init, by rw [stmtVisits]⟩
  | ret value => exact ⟨_, optionVisits_idle value, by rw [stmtVisits]⟩
  | assign target op value =>
      exact ⟨_, .andThen (exprVisits_idle value) fun _ =>
        .andThen (assignedVisits_idle target op) fun _ => placeVisits_idle target,
        by rw [stmtVisits]⟩
  | block | branch => cases h

/-- Expressions leave the value of the last statement alone. -/
theorem unnoted_evaluates : Evaluates fun _ (run : Run σ _) => run.Unnoted where
  lift _ _ := rfl
  tick s := by
    rcases Run.tick_cases s with ⟨-, h⟩ | ⟨-, h⟩ <;> rw [h] <;> rfl
  resolveName name s := by
    unfold Run.resolveName
    split
    · rfl
    · split <;> rfl
  bind := .bind
  select arg s := by
    unfold select
    split <;> rfl
  read _ _ _ := rfl
  write ids w s := by
    rw [Run.writeEach]
    exact List.foldlRecOn (motive := fun t : Session σ => t.completion = s.completion) ids _ rfl
      fun _ ht _ _ => ht
  log _ _ := rfl

/-- Expressions are quiet. -/
theorem eval_quiet (e : Expr) (s : Session σ) : Quiet s (exprVisits e s) (eval e s).2 :=
  ⟨(eval_observes e).same s, eval_walks unnoted_evaluates e s, exprVisits_idle e s⟩

/-! ### Statements -/

/-- What a statement evaluates that has one expression, or none: the step that the statement starts
with, and then the expression. -/
def evalStep (e : Option Expr) : Run σ Operand := do
  Run.tick
  evalOption e

/-- Evaluating the expression of a statement observes. -/
theorem evalStep_observes (e : Option Expr) : Run.Observes (evalStep e : Run σ Operand) :=
  .bind .tick fun _ => evalOption_walks observes_evaluates e

/-- A declaration evaluates its initial value, and then declares. -/
theorem exec_decl (kind : DeclKind) (name : String) (init : Option Expr) :
    (exec (.decl kind name init) : Run σ Flow) = evalStep init >>= fun held =>
      Run.declare kind name held >>= fun _ => pure .next := by
  simp only [exec, evalStep, bind_assoc]

/-- The visits of a statement begin with that of the statement. -/
theorem mem_stmtVisits (stmt : Stmt) (s : Session σ) : .stmt stmt s ∈ stmtVisits stmt s := by
  cases stmt with
  | branch test yes no =>
      cases no <;> rw [stmtVisits] <;> exact List.mem_cons_self
  | _ =>
    rw [stmtVisits]
    exact List.mem_cons_self

/-- What a computation does, as a relation between the session before, the visits, the result and
the session after. -/
abbrev Conduct (σ : Type) := Session σ → List (Visit σ) → Except RunError Flow → Session σ → Prop

/-- A computation with its visits does this, in whatever session it starts. -/
def Conduct.Holds (P : Conduct σ) (visits : Visits σ) (run : Run σ Flow) : Prop :=
  ∀ s, P s (visits s) (run s).1 (run s).2

/-- What is done carries over: `N` over quiet stretches and out of scopes, and `R` along statements
in turn. Of statements that act, `R` has to hold. -/
structure Course (N R : Conduct σ) : Prop where
  quiet : ∀ {s vs t result}, Quiet s vs t → (∀ o, result ≠ .ok (.returned o)) → N s vs result t
  after : ∀ {s vs t ws result u}, Quiet s vs t → N t ws result u → N s (vs ++ ws) result u
  inScope : ∀ {s vs result t}, R s.push vs result t → N s vs result t.pop
  nested : ∀ {s vs result t}, N s vs result t → R s vs result t
  act : ∀ {stmt : Stmt}, stmt.nests = false → R.Holds (stmtVisits stmt) (exec stmt)
  append : ∀ {s vs t ws result u}, R s vs (.ok .next) t → R t ws result u → R s (vs ++ ws) result u

section Course

variable {N R : Conduct σ} (hC : Course N R)

include hC

/-- Going on without doing anything. -/
theorem next_course : N.Holds .none (pure .next) := fun s => hC.quiet (.refl s) nofun

/-- A visit of a statement that only runs others, given what it runs. -/
theorem entering_course {stmt : Stmt} (hstmt : stmt.nests = true) {below : Visits σ}
    {run : Run σ Flow} (h : N.Holds below run) :
    N.Holds (.entering (.stmt stmt) below) (Run.tick >>= fun _ => run) := fun s => by
  have hvisit : Quiet s [.stmt stmt s] (s.later 1) :=
    ⟨s.sameVariables_later 1, rfl, List.forall_mem_singleton.mpr (congrArg not hstmt)⟩
  rw [Run.bind_apply, Visits.entering, Visits.andThen]
  rcases Run.tick_cases s with ⟨-, htick⟩ | ⟨-, htick⟩
  · rw [htick]
    exact hC.quiet hvisit nofun
  · rw [htick]
    exact hC.after hvisit (h (s.later 1))

/-- An expression, given what comes next. -/
theorem eval_course (e : Expr) {more : Operand → Visits σ} {next : Operand → Run σ Flow}
    (h : ∀ v, N.Holds (more v) (next v)) :
    N.Holds (.andThen (exprVisits e) (eval e) more) (eval e >>= next) := fun s => by
  have hquiet := eval_quiet e s
  rw [Run.bind_apply, Visits.andThen]
  generalize eval e s = out at hquiet
  obtain ⟨result, t⟩ := out
  cases result with
  | error err => exact hC.quiet (hquiet.append (.refl t)) nofun
  | ok v => exact hC.after hquiet (h v t)

/-- A computation in a scope of its own. -/
theorem inScope_course {visits : Visits σ} {run : Run σ Flow} (h : R.Holds visits run) :
    N.Holds (.inScope visits) (Run.inScope run) := fun s => hC.inScope (h s.push)

/-- A block, given its statements. -/
theorem block_course {body : List Stmt} (h : R.Holds (programVisits body) (execAll body)) :
    N.Holds (stmtVisits (.block body)) (exec (.block body)) := by
  rw [stmtVisits, exec]
  exact entering_course hC rfl (inScope_course hC h)

/-- A branch without an alternative, given its statement. -/
theorem branch_course (test : Expr) {yes : Stmt} (h : R.Holds (stmtVisits yes) (exec yes)) :
    N.Holds (stmtVisits (.branch test yes none)) (exec (.branch test yes none)) := by
  rw [stmtVisits, exec]
  refine entering_course hC rfl (eval_course hC test fun v => ?_)
  cases v.truthy with
  | true => exact inScope_course hC h
  | false => exact next_course hC

/-- A branch with an alternative, given both statements. -/
theorem alternative_course (test : Expr) {yes no : Stmt} (h : R.Holds (stmtVisits yes) (exec yes))
    (h' : R.Holds (stmtVisits no) (exec no)) :
    N.Holds (stmtVisits (.branch test yes (some no))) (exec (.branch test yes (some no))) := by
  rw [stmtVisits, exec]
  refine entering_course hC rfl (eval_course hC test fun v => ?_)
  cases v.truthy with
  | true => exact inScope_course hC h
  | false => exact inScope_course hC h'

mutual

/-- `R` holds of every statement. -/
theorem exec_course : ∀ stmt : Stmt, R.Holds (stmtVisits stmt) (exec stmt)
  | .empty => hC.act rfl
  | .expr _ => hC.act rfl
  | .decl _ _ _ => hC.act rfl
  | .assign _ _ _ => hC.act rfl
  | .ret _ => hC.act rfl
  | .branch test yes none => fun s => hC.nested (branch_course hC test (exec_course yes) s)
  | .branch test yes (some no) => fun s =>
      hC.nested (alternative_course hC test (exec_course yes) (exec_course no) s)
  | .block body => fun s => hC.nested (block_course hC (execAll_course body) s)

/-- `R` holds of statements in turn. -/
theorem execAll_course : ∀ body : List Stmt, R.Holds (programVisits body) (execAll body)
  | [] => by
      rw [programVisits, execAll]
      exact fun s => hC.nested (next_course hC s)
  | stmt :: rest => fun s => by
      have hstmt := exec_course stmt s
      rw [programVisits, execAll, Run.bind_apply, Visits.andThen]
      generalize exec stmt s = out at hstmt
      obtain ⟨result, t⟩ := out
      cases result with
      | error e =>
          dsimp only
          rwa [List.append_nil]
      | ok flow =>
          cases flow with
          | next => exact hC.append hstmt (execAll_course rest t)
          | returned o =>
              -- nothing is visited behind a return
              change R s (stmtVisits stmt s ++ []) (.ok (.returned o)) t
              rwa [List.append_nil]

end

/-- `N` holds of blocks and branches. -/
theorem exec_nested {stmt : Stmt} (h : stmt.nests = true) :
    N.Holds (stmtVisits stmt) (exec stmt) := by
  cases stmt with
  | block body => exact block_course hC (execAll_course hC body)
  | branch test yes no =>
      cases no with
      | none => exact branch_course hC test (exec_course hC yes)
      | some no => exact alternative_course hC test (exec_course hC yes) (exec_course hC no)
  | _ => exact nomatch h

end Course

end Host

end WidgetFlow.Script
