import WidgetFlow.Proofs.Script.Observe

/-!
# What the limit of steps does to a run

A run stops when it takes a step too many, and what it has done until then is kept. Nothing else of
a run depends on the limit. So two runs of the same code in sessions that differ in the limit go
along with each other, call for call, until the limit stops one of them.

Draws of `Math` give the same in every run here, so that nothing has to be said of them.

## Main results

* `Run.Curbed`, `curbed_walks`: what is said of a computation under two limits, and that it passes
  on.
* `limit_cuts_short`: **a greater limit changes nothing but that a run goes on.**
* `host_runProgram`: the calls of a run account for all that becomes of its host.
-/

namespace WidgetFlow.Script

variable {σ : Type} {α β : Type} {s t : Session σ} {m m' : Nat}

/-! ### Limits -/

/-- The session with another limit of steps. -/
def Session.limited (s : Session σ) (m : Nat) : Session σ := { s with maxSteps := m }

/-- The limit of steps has nothing to do with the variables. -/
theorem Session.beside_limited (m : Nat) : Session.Beside fun s : Session σ => s.limited m :=
  ⟨fun _ _ => rfl, fun _ _ => rfl, fun _ _ => rfl⟩

/-- A session with the limit that it has. -/
theorem Session.limited_eq_self (h : s.maxSteps = m) : s.limited m = s := by
  subst h
  rfl

/-- A computation keeps the limit. Run under a limit, either it is stopped by it, and under a
greater limit it begins with the same calls; or under the greater limit it does the same, call for
call. -/
structure Run.Curbed (calls : Calls σ) (run : Run σ α) : Prop where
  maxSteps : ∀ s, (run s).2.maxSteps = s.maxSteps
  cut : ∀ (s : Session σ) {m m' : Nat}, m ≤ m' →
    ((run (s.limited m)).1 = .error (.stepLimit m) ∧ calls (s.limited m) <+: calls (s.limited m')) ∨
    (run (s.limited m') = ((run (s.limited m)).1, (run (s.limited m)).2.limited m') ∧
      calls (s.limited m) = calls (s.limited m'))

namespace Run.Curbed

variable {calls : Calls σ} {run : Run σ α}

/-- A computation that does not look at the limit. -/
theorem of_limited {made : List HostCall}
    (h : ∀ s m, run (s.limited m) = ((run s).1, (run s).2.limited m)) :
    Curbed (fun _ => made) run where
  maxSteps s := congrArg (Session.maxSteps ∘ Prod.snd) (h s s.maxSteps)
  cut s m m' _ := .inr ⟨h (s.limited m) m', rfl⟩

/-- Taking a step. -/
theorem tick : Curbed .none (Run.tick : Run σ Unit) where
  maxSteps s := by
    rcases tick_cases s with ⟨-, h⟩ | ⟨-, h⟩ <;> rw [h] <;> rfl
  cut s m m' hm := by
    rcases tick_cases (s.limited m) with ⟨-, h⟩ | ⟨hlt, h⟩
    · exact .inl ⟨congrArg Prod.fst h, List.prefix_rfl⟩
    · rcases tick_cases (s.limited m') with ⟨hle, -⟩ | ⟨-, h'⟩
      · exact absurd (Nat.le_trans hm hle) (Nat.not_le.mpr hlt)
      · rw [h, h']
        exact .inr ⟨rfl, rfl⟩

/-- Two computations in turn. -/
theorem bind {more : α → Calls σ} {next : α → Run σ β} (h : Curbed calls run)
    (hnext : ∀ a, Curbed (more a) (next a)) : Curbed (.andThen calls run more) (run >>= next) where
  maxSteps s := by
    have hrun := h.maxSteps s
    rw [bind_apply]
    generalize run s = out at hrun
    obtain ⟨result, t⟩ := out
    cases result with
    | error e => exact hrun
    | ok a => exact ((hnext a).maxSteps t).trans hrun
  cut s m m' hm := by
    rw [bind_apply, bind_apply, Calls.andThen, Calls.andThen]
    have hmax := h.maxSteps (s.limited m)
    rcases h.cut s hm with ⟨hstop, hprefix⟩ | ⟨hrun, hcalls⟩
    · -- nothing is called behind the step too many
      generalize run (s.limited m) = out at hstop
      obtain ⟨result, t⟩ := out
      obtain rfl : result = _ := hstop
      refine .inl ⟨rfl, ?_⟩
      rw [List.append_nil]
      exact hprefix.trans (List.prefix_append _ _)
    · rw [hrun, hcalls]
      generalize run (s.limited m) = out at hmax
      obtain ⟨result, t⟩ := out
      cases result with
      | error e => exact .inr ⟨rfl, rfl⟩
      | ok a =>
          have ht : t.limited m = t := Session.limited_eq_self hmax
          have hlast := (hnext a).cut t hm
          rw [ht] at hlast
          exact hlast.imp (.imp_right fun hp => (List.prefix_append_right_inj _).mpr hp)
            (.imp_right fun hc => congrArg _ hc)

/-- A computation in a scope of its own. -/
theorem inScope (h : Curbed calls run) : Curbed calls.inScope (Run.inScope run) where
  maxSteps s := h.maxSteps s.push
  cut s m m' hm := by
    rcases h.cut s.push hm with hstop | ⟨hrun, hcalls⟩
    · exact .inl hstop
    · refine .inr ⟨?_, hcalls⟩
      have hpop : Run.inScope run (s.limited m') = ((run (s.push.limited m')).1,
          (run (s.push.limited m')).2.pop) := rfl
      rw [hpop, hrun]
      rfl

end Run.Curbed

section Host

variable [Host σ]

/-- What is said of a computation under two limits passes on. -/
theorem curbed_walks : TracedWalks fun _ (calls : Calls σ) run => run.Curbed calls where
  plain h := .of_limited fun s m => h _ (Session.beside_limited m) s
  tick := .tick
  bind := .bind
  inScope := .inScope
  select arg := .of_limited fun s m => by
    unfold select
    split <;> rfl
  read _ _ := .of_limited fun _ _ => rfl
  write ids w := .of_limited fun s m =>
    Prod.ext rfl (List.foldl_hom (Session.limited · m) fun _ _ => rfl)
  log _ := .of_limited fun _ _ => rfl

/-- **A greater limit changes nothing but that a run goes on.** Take any program, and any session:
any host, variables, and component called itself. If the run under the lesser limit ends in any way
but for the limit, then the run under the greater limit ends in the same way, with the same
components written, the same variables and the same host. And if the limit stops it, then the run
under the greater limit begins with the same calls of the host. -/
theorem limit_cuts_short (body : List Stmt) (s : Session σ) (h : m ≤ m') :
    let short := runProgram body (s.limited m)
    let long := runProgram body (s.limited m')
    ((∀ limit, short.1 ≠ .error (.stepLimit limit)) →
      long = (short.1, short.2.limited m') ∧
        programCalls body (s.limited m) = programCalls body (s.limited m')) ∧
    ((∃ limit, short.1 = .error (.stepLimit limit)) →
      programCalls body (s.limited m) <+: programCalls body (s.limited m')) := by
  intro short long
  rcases (runProgram_traced curbed_walks body).cut s h with ⟨hstop, hprefix⟩ | ⟨hrun, hcalls⟩
  · exact ⟨fun hne => absurd hstop (hne m), fun _ => hprefix⟩
  · exact ⟨fun _ => ⟨hrun, hcalls⟩, fun _ => hcalls ▸ List.prefix_rfl⟩

/-- A component is shown and then hidden, which takes six steps. A limit of five steps stops that
behind the first call, and a limit of seven steps makes no difference. -/
theorem limit_cuts_short_hiding :
    let body : List Stmt := [.expr (.call (.member (.var "h") "show") []),
      .expr (.call (.member (.var "h") "hide") [])]
    let s : Session Console := (Session.start {} none 0).bind "h" (.handle ["x"])
    (runProgram body (s.limited 5)).1 = .error (.stepLimit 5) ∧
    programCalls body (s.limited 5) = [.write "x" (.setHidden false)] ∧
    programCalls body (s.limited 5) <+: programCalls body (s.limited 6) ∧
    (∀ limit, (runProgram body (s.limited 6)).1 ≠ .error (.stepLimit limit)) ∧
    runProgram body (s.limited 7) =
      ((runProgram body (s.limited 6)).1, (runProgram body (s.limited 6)).2.limited 7) := by
  intro body s
  have hstop : (runProgram body (s.limited 5)).1 = .error (.stepLimit 5) := rfl
  have hend : (runProgram body (s.limited 6)).1 = .ok (.handle ["x"]) := rfl
  have hne : ∀ limit, (runProgram body (s.limited 6)).1 ≠ .error (.stepLimit limit) := by
    intro limit
    rw [hend]
    exact nofun
  exact ⟨hstop, rfl, (limit_cuts_short body s (show 5 ≤ 6 by decide)).2 ⟨5, hstop⟩, hne,
    ((limit_cuts_short body s (show 6 ≤ 7 by decide)).1 hne).1⟩

/-! ### Calls and the host -/

/-- What a call does to a host. Selecting and reading do nothing to it. -/
def HostCall.perform (h : σ) : HostCall → σ
  | .select _ => h
  | .read _ _ => h
  | .write id w => (w.run h id).2
  | .log line => Host.log h line

/-- The calls of a computation do to the host what the computation does to it. -/
def Run.Performs (calls : Calls σ) (run : Run σ α) : Prop :=
  ∀ s, (run s).2.host = (calls s).foldl HostCall.perform s.host

/-- What calls do passes on. -/
theorem performs_walks : TracedWalks fun _ (calls : Calls σ) run => run.Performs calls where
  plain h s := (h.aside.host s).1
  tick s := (Run.aside_tick.host s).1
  bind := by
    intro α β calls run more next h hnext s
    have hrun := h s
    rw [Run.bind_apply, Calls.andThen, List.foldl_append, ← hrun]
    generalize run s = out
    obtain ⟨result, t⟩ := out
    cases result with
    | error e => rfl
    | ok a => exact hnext a t
  inScope h s := h s.push
  select arg s := by
    have hcalls : (selectCalls arg).foldl HostCall.perform s.host = s.host := by
      unfold selectCalls
      split
      · split <;> rfl
      · rfl
    rw [hcalls]
    unfold select
    split <;> rfl
  read ids r s := by
    rw [readCalls]
    cases ids.head? <;> rfl
  write ids w s := by
    rw [writeCalls, List.foldl_map]
    exact (List.foldl_hom Session.host fun _ _ => rfl).symm
  log _ _ := rfl

/-- The calls of a run account for all that becomes of its host, however the run ends. -/
theorem host_runProgram (body : List Stmt) (s : Session σ) :
    (runProgram body s).2.host = (programCalls body s).foldl HostCall.perform s.host :=
  runProgram_traced performs_walks body s

end Host

end WidgetFlow.Script
