import WidgetFlow.Proofs.Script.Walk

/-!
# What expressions see of a session

Expressions look variables up, and reach the host through handles. They do not declare a variable or
assign to one, and of the count of steps they see nothing but that the limit is reached.

`Run.Observes run` says this of a computation: it leaves the variables as they are, and begun some
steps later it does the same, unless the limit stops it.

## Main results

* `observes_evaluates`: it passes on.
* `eval_observes`, `assigned_observes`, `placePath_observes`: it holds of expressions, and of what
  an assignment evaluates before it writes.
-/

namespace WidgetFlow.Script

variable {σ : Type} {α β : Type} {s t u : Session σ}

/-! ### Variables and steps -/

/-- Two sessions with the same variables, and the same limit on steps. -/
structure Session.SameVariables (s t : Session σ) : Prop where
  outer : t.outer = s.outer
  inner : t.inner = s.inner
  maxSteps : t.maxSteps = s.maxSteps

namespace Session

/-- A session has the variables that it has. -/
theorem SameVariables.refl (s : Session σ) : s.SameVariables s := ⟨rfl, rfl, rfl⟩

/-- Having the same variables is transitive. -/
theorem SameVariables.trans (h : s.SameVariables t) (h' : t.SameVariables u) : s.SameVariables u :=
  ⟨h'.outer.trans h.outer, h'.inner.trans h.inner, h'.maxSteps.trans h.maxSteps⟩

/-- Names stand for the same in sessions with the same variables. -/
theorem SameVariables.lookup (h : s.SameVariables t) (name : String) :
    t.lookup name = s.lookup name := by
  rw [Session.lookup, Session.lookup, h.outer, h.inner]

/-- The session with some more steps taken. -/
def later (s : Session σ) (n : Nat) : Session σ := { s with steps := s.steps + n }

/-- Steps add up. -/
theorem later_later (s : Session σ) (m n : Nat) : (s.later m).later n = s.later (m + n) := by
  rw [later, later, later, Nat.add_assoc]

/-- The number of steps taken has nothing to do with the variables. -/
theorem beside_later (n : Nat) : Beside fun s : Session σ => s.later n :=
  ⟨fun _ _ => rfl, fun _ _ => rfl, fun _ _ => rfl⟩

/-- More steps change no variable. -/
theorem sameVariables_later (s : Session σ) (n : Nat) : s.SameVariables (s.later n) :=
  ⟨rfl, rfl, rfl⟩

end Session

/-! ### Computations -/

/-- A computation leaves the variables as they are. It ends within the limit on steps, unless that
is what stops it; and begun some steps later it does the same, unless the limit stops it. -/
structure Run.Observes (run : Run σ α) : Prop where
  same : ∀ s : Session σ, s.SameVariables (run s).2
  within : ∀ s, s.steps ≤ s.maxSteps →
    (run s).1 = .error (.stepLimit s.maxSteps) ∨ (run s).2.steps ≤ s.maxSteps
  later : ∀ s n, (run (s.later n)).1 = .error (.stepLimit s.maxSteps) ∨
    run (s.later n) = ((run s).1, (run s).2.later n)

/-- A step is taken, or it is one too many. -/
theorem Run.tick_cases (s : Session σ) :
    (s.maxSteps ≤ s.steps ∧ Run.tick s = (.error (.stepLimit s.maxSteps), s.later 1)) ∨
    (s.steps < s.maxSteps ∧ Run.tick s = (.ok (), s.later 1)) := by
  rw [Run.tick]
  dsimp only
  split
  · next h => exact .inl ⟨Nat.le_of_lt_succ h, rfl⟩
  · next h => exact .inr ⟨Nat.lt_of_succ_le (Nat.le_of_not_lt h), rfl⟩

/-- A step that the limit allows. -/
theorem Run.tick_bind_of_lt (run : Run σ α) (h : s.steps < s.maxSteps) :
    (Run.tick >>= fun _ => run) s = run (s.later 1) := by
  rcases tick_cases s with ⟨hle, -⟩ | ⟨-, htick⟩
  · exact absurd h (Nat.not_lt.mpr hle)
  · rw [bind_apply, htick]

/-- A step too many. -/
theorem Run.tick_bind_of_le (run : Run σ α) (h : s.maxSteps ≤ s.steps) :
    (Run.tick >>= fun _ => run) s = (.error (.stepLimit s.maxSteps), s.later 1) := by
  rcases tick_cases s with ⟨-, htick⟩ | ⟨hlt, -⟩
  · rw [bind_apply, htick]
  · exact absurd h (Nat.not_le.mpr hlt)

namespace Run.Observes

variable {run : Run σ α}

/-- A computation that changes nothing but the host, whatever the number of steps. -/
theorem of_host (hsame : ∀ s : Session σ, s.SameVariables (run s).2)
    (hsteps : ∀ s, (run s).2.steps = s.steps)
    (hlater : ∀ s n, run (s.later n) = ((run s).1, (run s).2.later n)) : Observes run where
  same := hsame
  within s hs := .inr (by rwa [hsteps])
  later s n := .inr (hlater s n)

/-- A computation that leaves the session as it is. -/
theorem of_still (hstill : ∀ s : Session σ, (run s).2 = s)
    (hresult : ∀ s n, (run (s.later n)).1 = (run s).1) : Observes run :=
  .of_host (fun s => by rw [hstill]; exact .refl s) (fun s => by rw [hstill]) fun s n =>
    Prod.ext (hresult s n) (by rw [hstill, hstill])

/-- Taking a step. -/
theorem tick : Observes (Run.tick : Run σ Unit) where
  same s := by
    rcases tick_cases s with ⟨-, h⟩ | ⟨-, h⟩ <;> rw [h] <;> exact s.sameVariables_later 1
  within s _ := by
    rcases tick_cases s with ⟨-, h⟩ | ⟨hlt, h⟩
    · exact .inl (congrArg Prod.fst h)
    · rw [h]
      exact .inr hlt
  later s n := by
    rcases tick_cases (s.later n) with ⟨-, h⟩ | ⟨hlt, h⟩
    · exact .inl (congrArg Prod.fst h)
    · rcases tick_cases s with ⟨hle, -⟩ | ⟨-, h'⟩
      · have hlt' : s.steps + n < s.maxSteps := hlt
        omega
      · rw [h, h', Session.later_later, Session.later_later, Nat.add_comm]
        exact .inr rfl

/-- Looking a name up. -/
theorem resolveName (name : String) : Observes (Run.resolveName name : Run σ Operand) := by
  have hkept : ∀ s : Session σ, (Run.resolveName name s).2 = s := fun s => by
    unfold Run.resolveName
    split
    · rfl
    · split <;> rfl
  refine .of_still hkept fun s n => ?_
  have hlookup : (s.later n).lookup name = s.lookup name := rfl
  unfold Run.resolveName
  rw [hlookup]
  cases s.lookup name with
  | some b => rfl
  | none =>
      dsimp only
      split <;> rfl

/-- Two computations in turn. -/
theorem bind {next : α → Run σ β} (h : Observes run) (hnext : ∀ a, Observes (next a)) :
    Observes (run >>= next) where
  same s := by
    have hrun := h.same s
    rw [bind_apply]
    generalize run s = out at hrun
    obtain ⟨result, t⟩ := out
    cases result with
    | error e => exact hrun
    | ok a => exact hrun.trans ((hnext a).same t)
  within s hs := by
    have hrun := h.within s hs
    have hsame := h.same s
    rw [bind_apply]
    generalize run s = out at hrun hsame
    obtain ⟨result, t⟩ := out
    cases result with
    | error e => exact hrun.imp_left fun (h : Except.error e = _) => by rw [Except.error.inj h]
    | ok a =>
        have hsteps : t.steps ≤ s.maxSteps := hrun.resolve_left nofun
        have hmax : t.maxSteps = s.maxSteps := hsame.maxSteps
        have hlast := (hnext a).within t (hmax ▸ hsteps)
        rwa [hmax] at hlast
  later s n := by
    rw [bind_apply, bind_apply]
    rcases h.later s n with hstop | hrun
    · generalize run (s.later n) = out at hstop
      obtain ⟨result, t⟩ := out
      obtain rfl : result = _ := hstop
      exact .inl rfl
    · rw [hrun]
      have hsame := h.same s
      generalize run s = out at hsame
      obtain ⟨result, t⟩ := out
      cases result with
      | error e => exact .inr rfl
      | ok a =>
          have hmax : t.maxSteps = s.maxSteps := hsame.maxSteps
          have hlast := (hnext a).later t n
          rwa [hmax] at hlast

end Run.Observes

/-- Writes to components. -/
theorem writeEach_observes (ids : List String) (write : σ → String → Bool × σ) :
    Run.Observes (Run.writeEach ids write) := by
  have hkept : ∀ s : Session σ, s.SameVariables (Run.writeEach ids write s).2 ∧
      (Run.writeEach ids write s).2.steps = s.steps := fun s =>
    List.foldlRecOn (motive := fun t : Session σ => s.SameVariables t ∧ t.steps = s.steps)
      ids _ ⟨.refl s, rfl⟩ fun t ht _ _ => ⟨ht.1.trans ⟨rfl, rfl, rfl⟩, ht.2⟩
  refine .of_host (fun s => (hkept s).1) (fun s => (hkept s).2) fun s n => ?_
  exact Prod.ext rfl (List.foldl_hom (Session.later · n) fun _ _ => rfl)

/-- Noting the value of a statement. -/
theorem complete_observes (value : Operand) : Run.Observes (complete value : Run σ Unit) :=
  .of_host (fun _ => ⟨rfl, rfl, rfl⟩) (fun _ => rfl) fun _ _ => rfl

section Host

variable [Host σ]

/-- What observes passes on. -/
theorem observes_evaluates : Evaluates fun _ (run : Run σ _) => run.Observes where
  lift _ := .of_host .refl (fun _ => rfl) fun _ _ => rfl
  tick := .tick
  resolveName := .resolveName
  bind := .bind
  select arg := by
    have hkept : ∀ s : Session σ, (select arg s).2 = s := fun s => by
      unfold select
      split <;> rfl
    refine .of_still hkept fun s n => ?_
    unfold select
    split <;> rfl
  read _ _ := .of_host .refl (fun _ => rfl) fun _ _ => rfl
  write ids w := writeEach_observes ids _
  log _ := .of_host (fun _ => ⟨rfl, rfl, rfl⟩) (fun _ => rfl) fun _ _ => rfl

/-- Expressions observe. -/
theorem eval_observes (e : Expr) : Run.Observes (eval e : Run σ Operand) :=
  eval_walks observes_evaluates e

/-- Finding what an assignment stores observes. -/
theorem assigned_observes (target : Expr) (op : AssignOp) (right : Operand) :
    Run.Observes (assigned target op right : Run σ Operand) :=
  assigned_walks observes_evaluates target op right

/-- Finding a place observes. -/
theorem placePath_observes (target : Expr) :
    Run.Observes (placePath target : Run σ (String × List PathStep)) :=
  placePath_walks observes_evaluates target

end Host

end WidgetFlow.Script
