import WidgetFlow.Proofs.Script.Assign
import WidgetFlow.Proofs.Script.Course

/-!
# The result of a run

A program that returns gives the value of its `return`. One that runs through gives what a session
has as the value of the last statement, and takes it out of the session. Expression statements put
it there, in whatever block they stand.

A run that returns or fails takes nothing out. What its expression statements have put into the
session stays, and becomes the result of a later run that runs through and has no expression
statement of its own (`leftOver`).

## Main results

* `yields_course`: what a run has as the value of the last statement, and what it returns.
* `result_of_run`: **a run gives the value of its return, or else of its last expression statement,
  or else what earlier runs have left, or else null.**
-/

namespace WidgetFlow.Script

variable {σ : Type} {α : Type} {s t u : Session σ} {vs ws : List (Visit σ)}

/-! ### The value of the last statement -/

/-- Declaring a variable notes no value. -/
theorem declare_unnoted (kind : DeclKind) (name : String) (held : Operand) :
    Run.Unnoted (Run.declare kind name held : Run σ Unit) := fun s => by
  rw [Run.declare, Session.declare_eq]
  cases s.clashes kind name with
  | true => rfl
  | false =>
      cases kind with
      | handler => rfl
      | _ => cases s.inner <;> rfl

/-- Replacing what a variable holds notes no value. -/
theorem Session.completion_replace (s : Session σ) (name : String) (held : Operand) :
    (s.replace name held).completion = s.completion := by
  rw [replace_eq]
  cases replaceIn name held s.inner <;> rfl

/-- Writing to a place notes no value. -/
theorem store_unnoted (held : Operand) (root : String) (path : List PathStep) :
    Run.Unnoted (store held root path : Run σ Unit) := fun s => by
  rw [store]
  split
  · rw [Run.assignVariable]
    cases s.lookup root with
    | none => rfl
    | some b =>
        dsimp only
        split
        · rfl
        · exact s.completion_replace root held
  · rw [Run.assignBelow]
    cases s.lookup root with
    | none => rfl
    | some b =>
        obtain ⟨old, constant⟩ := b
        cases old with
        | value old =>
            dsimp only
            split
            · exact s.completion_replace root _
            · split <;> exact s.completion_replace root _
        | _ => rfl

/-- What is returned with a result. -/
def returns : Except RunError Flow → List Operand
  | .ok (.returned o) => [o]
  | _ => []

/-- A computation behind which control goes on returns nothing. -/
theorem goes_on {run : Run σ α} (h : run.Unnoted) (s : Session σ) :
    ((run >>= fun _ => pure Flow.next) s).2.completion = s.completion ∧
      [] = returns ((run >>= fun _ => pure Flow.next) s).1 := by
  have hrun := h s
  rw [Run.bind_apply]
  generalize run s = out at hrun
  obtain ⟨result, t⟩ := out
  cases result <;> exact ⟨hrun, rfl⟩

section Host

variable [Host σ]

/-- Evaluating the expression of a statement notes no value. -/
theorem evalStep_unnoted (e : Option Expr) : Run.Unnoted (evalStep e : Run σ Operand) :=
  .bind unnoted_evaluates.tick fun _ => evalOption_walks unnoted_evaluates e

/-- What an assignment evaluates before it writes notes no value. -/
theorem prepare_unnoted (target : Expr) (op : AssignOp) (value : Expr) :
    Run.Unnoted (prepare target op value : Run σ (Operand × String × List PathStep)) :=
  .bind unnoted_evaluates.tick fun _ => .bind (eval_walks unnoted_evaluates value) fun right =>
    .bind (assigned_walks unnoted_evaluates target op right) fun _ =>
      .bind (placePath_walks unnoted_evaluates target) fun _ _ => rfl

/-! ### Values of visited statements -/

/-- The value of a visited expression statement, if it has one. -/
def Visit.noted? : Visit σ → Option Operand
  | .stmt (.expr e) s => (evalStep (some e) s).1.toOption
  | _ => none

/-- The value of a visited return, if it has one. -/
def Visit.returned? : Visit σ → Option Operand
  | .stmt (.ret value) s => (evalStep value s).1.toOption
  | _ => none

/-- The value of the last expression statement among visits. -/
def lastNoted (visits : List (Visit σ)) : Option Operand :=
  (visits.filterMap Visit.noted?).getLast?

/-- The value of the return among visits. -/
def returnValue (visits : List (Visit σ)) : Option Operand :=
  (visits.filterMap Visit.returned?).head?

/-- What visits give of their own: the value of the return, or else that of the last expression
statement. -/
def ownValue (visits : List (Visit σ)) : Option Operand :=
  (returnValue visits).or (lastNoted visits)

/-- Only statements that act have values. -/
theorem Visit.noted?_of_idle {v : Visit σ} (h : v.acts = false) : v.noted? = none := by
  cases v with
  | expr e s => rfl
  | stmt code s =>
      cases code with
      | expr e => exact nomatch h
      | _ => rfl

/-- Only statements that act return. -/
theorem Visit.returned?_of_idle {v : Visit σ} (h : v.acts = false) : v.returned? = none := by
  cases v with
  | expr e s => rfl
  | stmt code s =>
      cases code with
      | ret value => exact nomatch h
      | _ => rfl

/-- What is found of a statement that acts is found at its own visit. -/
theorem filterMap_act {stmt : Stmt} (h : stmt.nests = false) {f : Visit σ → Option Operand}
    (hf : ∀ v : Visit σ, v.acts = false → f v = none) (s : Session σ) :
    (stmtVisits stmt s).filterMap f = (f (.stmt stmt s)).toList := by
  obtain ⟨below, hidle, hvisits⟩ := stmtVisits_act (σ := σ) h
  have hrest : ∀ v ∈ Visits.andThen .none Run.tick (fun _ => below) s, f v = none := fun v hv =>
    hf v (Visits.Idle.andThen .none (fun _ => hidle) s v hv)
  rw [hvisits, Visits.entering, List.filterMap_cons, List.filterMap_eq_nil_iff.mpr hrest]
  cases f (.stmt stmt s) <;> rfl

/-! ### What a run yields -/

/-- After a run, the value of the last statement is that of the last expression statement visited,
if there is one. The run returns the value of the return that it visits, and visits none otherwise.
-/
structure Yields (s : Session σ) (visits : List (Visit σ)) (result : Except RunError Flow)
    (t : Session σ) : Prop where
  completion : t.completion = (lastNoted visits).getD s.completion
  returned : visits.filterMap Visit.returned? = returns result

/-- Where no statement acts, there is no value and no return. -/
theorem Yields.of_quiet {result : Except RunError Flow} (h : Quiet s vs t)
    (hresult : ∀ o, result ≠ .ok (.returned o)) : Yields s vs result t where
  completion := by
    rw [lastNoted, List.filterMap_eq_nil_iff.mpr fun v hv => Visit.noted?_of_idle (h.visits v hv)]
    exact h.completion
  returned := by
    rw [List.filterMap_eq_nil_iff.mpr fun v hv => Visit.returned?_of_idle (h.visits v hv)]
    cases result with
    | error e => rfl
    | ok flow =>
        cases flow with
        | next => rfl
        | returned o => exact absurd rfl (hresult o)

/-- What is yielded in turn. -/
theorem Yields.append {result : Except RunError Flow} (h : Yields s vs (.ok .next) t)
    (h' : Yields t ws result u) : Yields s (vs ++ ws) result u where
  completion := by
    rw [lastNoted, List.filterMap_append, List.getLast?_append, h'.completion, h.completion,
      lastNoted, lastNoted]
    cases (ws.filterMap Visit.noted?).getLast? <;> rfl
  returned := by
    rw [List.filterMap_append, h.returned, h'.returned]
    rfl

/-- What a statement that acts yields. -/
theorem yields_act {stmt : Stmt} (h : stmt.nests = false) :
    Conduct.Holds Yields (stmtVisits stmt : Visits σ) (exec stmt) := fun s => by
  suffices hown : (exec stmt s).2.completion =
      (Visit.noted? (.stmt stmt s)).getD s.completion ∧
      (Visit.returned? (.stmt stmt s)).toList = returns (exec stmt s).1 by
    refine ⟨?_, ?_⟩
    · rw [lastNoted, filterMap_act h (fun _ => Visit.noted?_of_idle), hown.1]
      cases Visit.noted? (.stmt stmt s) <;> rfl
    · rw [filterMap_act h (fun _ => Visit.returned?_of_idle), hown.2]
  cases stmt with
  | empty =>
      rw [exec, Run.bind_apply]
      rcases Run.tick_cases s with ⟨-, htick⟩ | ⟨-, htick⟩ <;> rw [htick] <;> exact ⟨rfl, rfl⟩
  | expr e =>
      have hnone := evalStep_unnoted (some e) s
      have hexec : (exec (.expr e) : Run σ Flow) = evalStep (some e) >>= fun v =>
          complete v >>= fun _ => pure .next := by
        simp only [exec, evalStep, evalOption, bind_assoc]
      change _ = (evalStep (some e) s).1.toOption.getD s.completion ∧ [] = _
      rw [hexec, Run.bind_apply]
      generalize evalStep (some e) s = out at hnone
      obtain ⟨result, t⟩ := out
      cases result with
      | error err => exact ⟨hnone, rfl⟩
      | ok v => exact ⟨rfl, rfl⟩
  | ret value =>
      have hnone := evalStep_unnoted value s
      have hexec : (exec (.ret value) : Run σ Flow) = evalStep value >>= fun o =>
          pure (.returned o) := by
        simp only [exec, evalStep, bind_assoc]
      change _ = s.completion ∧ (evalStep value s).1.toOption.toList = _
      rw [hexec, Run.bind_apply]
      generalize evalStep value s = out at hnone
      obtain ⟨result, t⟩ := out
      cases result with
      | error err => exact ⟨hnone, rfl⟩
      | ok o => exact ⟨hnone, rfl⟩
  | decl kind name init =>
      rw [exec_decl, ← bind_assoc]
      exact goes_on ((evalStep_unnoted init).bind fun held => declare_unnoted kind name held) s
  | assign target op value =>
      have hexec : (exec (.assign target op value) : Run σ Flow) =
          (prepare target op value >>= fun found => store found.1 found.2.1 found.2.2) >>= fun _ =>
            pure .next := by
        rw [exec_assign, bind_assoc]
      rw [hexec]
      exact goes_on ((prepare_unnoted target op value).bind fun found =>
        store_unnoted found.1 found.2.1 found.2.2) s
  | block | branch => cases h

/-- What is yielded carries over along a run. -/
theorem yields_course : Course (Yields (σ := σ)) Yields where
  quiet := .of_quiet
  after {s vs t ws result u} hquiet h := by
    have hfirst : Yields s vs (.ok .next) t := .of_quiet hquiet nofun
    exact hfirst.append h
  inScope h := ⟨h.completion, h.returned⟩
  nested h := h
  act := yields_act
  append := .append

/-! ### Runs one after the other -/

/-- The session after some programs have run in it, each after the one before. -/
def afterRuns (programs : List (List Stmt)) (s : Session σ) : Session σ :=
  programs.foldl (fun s body => (runProgram body s).2) s

/-- Whether a program ends behind its last statement, and neither returns nor fails. -/
def runsThrough (body : List Stmt) (s : Session σ) : Bool :=
  match (execAll body s).1 with
  | .ok .next => true
  | _ => false

/-- What some programs leave in a session that has the value `left`: the value of the last
expression statement, but what comes before the end of a program that runs through is gone. -/
def leftOver : List (List Stmt) → Session σ → Option Operand → Option Operand
  | [], _, left => left
  | body :: rest, s, left =>
    leftOver rest (runProgram body s).2 <|
      if runsThrough body s then none else (lastNoted (programVisits body s)).or left

/-- The last program leaves nothing if it runs through. Otherwise it leaves the value of its last
expression statement, or else what the programs before it leave. -/
theorem leftOver_concat (programs : List (List Stmt)) (body : List Stmt) (s : Session σ)
    (left : Option Operand) : leftOver (programs ++ [body]) s left =
      if runsThrough body (afterRuns programs s) then none else
        (lastNoted (programVisits body (afterRuns programs s))).or (leftOver programs s left) := by
  induction programs generalizing s left with
  | nil => rfl
  | cons first rest ih => exact ih _ _

/-- The result of a program, and the value of the last statement after it. -/
theorem runProgram_yields (body : List Stmt) (s : Session σ) :
    (∀ o, (runProgram body s).1 = .ok o →
      o = (ownValue (programVisits body s)).getD s.completion) ∧
    (runProgram body s).2.completion = if runsThrough body s then .null else
      (lastNoted (programVisits body s)).getD s.completion := by
  have hyields := execAll_course yields_course body s
  rw [runProgram, Run.bind_apply, runsThrough]
  generalize execAll body s = out at hyields
  obtain ⟨result, t⟩ := out
  obtain ⟨hcompletion, hreturned⟩ := hyields
  rw [ownValue, returnValue, hreturned]
  cases result with
  | error e => exact ⟨fun o ho => (by cases ho), hcompletion⟩
  | ok flow =>
      cases flow with
      -- the value of the last statement stays in the session
      | returned o => exact ⟨fun o' ho => (Except.ok.inj ho).symm, hcompletion⟩
      | next => exact ⟨fun o ho => (Except.ok.inj ho).symm.trans hcompletion, rfl⟩

/-- What programs leave is what the session has after them. -/
theorem completion_afterRuns (programs : List (List Stmt)) {s : Session σ} {left : Option Operand}
    (h : s.completion = left.getD .null) :
    (afterRuns programs s).completion = (leftOver programs s left).getD .null := by
  induction programs generalizing s left with
  | nil => exact h
  | cons body rest ih =>
      refine ih ?_
      rw [(runProgram_yields body s).2, h]
      split
      · rfl
      · cases lastNoted (programVisits body s) <;> rfl

/-- **The result of a run.** Take any session in which no statement has run yet, any programs that
then run in it, each of which may run through, return or fail, and a program that succeeds after
them. It gives the value of the return that it visits, or else that of the last expression statement
that it visits, in whatever block, or else what the programs before have left, or else null. -/
theorem result_of_run {start : Session σ} (hstart : start.completion = .null)
    (earlier : List (List Stmt)) {body : List Stmt} {o : Operand}
    (h : (runProgram body (afterRuns earlier start)).1 = .ok o) :
    let visits := programVisits body (afterRuns earlier start)
    o = ((ownValue visits).or (leftOver earlier start none)).getD .null := by
  intro visits
  have hcompletion : (afterRuns earlier start).completion =
      (leftOver earlier start none).getD .null := completion_afterRuns earlier hstart
  rw [(runProgram_yields body _).1 o h, hcompletion]
  cases ownValue visits <;> rfl

/-- After a run of `1; return 2`, a run of `3` gives 3. -/
theorem result_of_run_expression :
    let start : Session Console := Session.start {} none 10
    let earlier : List (List Stmt) :=
      [[.expr (.literal (.ofNat 1)), .ret (some (.literal (.ofNat 2)))]]
    let body : List Stmt := [.expr (.literal (.ofNat 3))]
    let visits := programVisits body (afterRuns earlier start)
    start.completion = .null ∧
      (runProgram body (afterRuns earlier start)).1 = .ok (.value (.ofNat 3)) ∧
      .value (.ofNat 3) = ((ownValue visits).or (leftOver earlier start none)).getD .null := by
  intro start earlier body visits
  have hrun : (runProgram body (afterRuns earlier start)).1 = .ok (.value (.ofNat 3)) := rfl
  exact ⟨rfl, hrun, result_of_run rfl earlier hrun⟩

/-- After a run of `1; return 2`, a run of `let a = 3` gives 1, though it visits neither a return
nor an expression statement. -/
theorem result_left_over :
    let start : Session Console := Session.start {} none 10
    let earlier : List (List Stmt) :=
      [[.expr (.literal (.ofNat 1)), .ret (some (.literal (.ofNat 2)))]]
    let body : List Stmt := [.decl .block "a" (some (.literal (.ofNat 3)))]
    let visits := programVisits body (afterRuns earlier start)
    (runProgram body (afterRuns earlier start)).1 = .ok (.value (.ofNat 1)) ∧
      ownValue visits = none := by
  intro start earlier body visits
  exact ⟨rfl, rfl⟩

end Host

end WidgetFlow.Script
