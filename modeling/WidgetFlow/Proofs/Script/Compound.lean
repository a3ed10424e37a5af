import WidgetFlow.Proofs.Script.Budget
import WidgetFlow.Proofs.Script.Observe

/-!
# Compound assignments

`x += e` and `x = x + e` evaluate in different orders. The compound form evaluates `e` first and
applies its operator to values, where an operand that is no value counts as null. The plain form
looks `x` up first and applies the operator of expressions, which only compares operands that are no
values and gives `false` for every other operator. It also takes a step more.

## Main results

* `exec_compound`, `exec_plain`: both forms as one assignment of a value to `x`.
* `compound_agrees`: **a compound assignment to a variable does what the plain one does**, unless
  one of the operands is no value.
-/

namespace WidgetFlow.Script

variable {σ α : Type} {s t : Session σ} {b : Binding} {op : AssignOp} {operator : BinaryOp}
  {x : String} {e : Expr} {o : Operand}

/-! ### Operators -/

/-- The operator of a compound assignment. -/
def AssignOp.operator? : AssignOp → Option BinaryOp
  | .set => none
  | .add => some .add
  | .sub => some .sub

/-- Whether an operand is a value, and not something that only the host knows of. -/
def Operand.isValue : Operand → Bool
  | .value _ => true
  | _ => false

/-- A number is within the budget. -/
theorem checked_ofFloat (x : Float) : checked (.ofFloat x) = .ok (.ofFloat x) :=
  checked_eq_ok.mpr ⟨rfl, (Value.size_ofFloat x).le.trans one_le_maxValueSize⟩

/-- An operator of a compound assignment gives `false` for an operand that is no value. -/
theorem binary_operator (l r : Operand) (hop : op.operator? = some operator) :
    binary operator l r = if l.isValue && r.isValue then
      binaryValue operator l.toValue r.toValue else .bool false := by
  cases op <;> cases hop <;> cases l <;> cases r <;> rfl

/-! ### Assigning a value -/

/-- Assigns a value to a variable, if it is within the budget. -/
def settle (x : String) (v : Value) : Run σ Flow := do
  Run.assignVariable x (.value (← Run.lift (checked v)))
  return .next

/-- Assigning to a variable is the same however many steps were taken. -/
theorem assignVariable_later (x : String) (held : Operand) (s : Session σ) (n : Nat) :
    Run.assignVariable x held (s.later n) =
      ((Run.assignVariable x held s).1, (Run.assignVariable x held s).2.later n) :=
  Run.plain_assignVariable x held _ (Session.beside_later n) s

/-- A value is checked, and then assigned. -/
theorem settle_apply (x : String) (v : Value) (s : Session σ) :
    settle x v s = match checked v with
      | .ok w => (Run.assignVariable x (.value w) >>= fun _ => pure Flow.next) s
      | .error e => (.error e, s) := by
  rw [settle, Run.bind_apply, Run.lift]
  cases checked v <;> rfl

/-- Assigning a value is the same however many steps were taken. -/
theorem settle_later (x : String) (v : Value) (s : Session σ) (n : Nat) :
    settle x v (s.later n) = ((settle x v s).1, (settle x v s).2.later n) := by
  rw [settle_apply, settle_apply]
  cases checked v with
  | error e => rfl
  | ok w =>
      dsimp only
      rw [Run.bind_apply, Run.bind_apply, assignVariable_later]
      generalize Run.assignVariable x (.value w) s = out
      obtain ⟨result, t⟩ := out
      cases result <;> rfl

/-- A value within the budget is assigned. -/
theorem settle_of_le {v : Value} (hv : v.size ≤ maxValueSize) (x : String) (s : Session σ) :
    settle x v s = (Run.assignVariable x (.value v) >>= fun _ => pure Flow.next) s := by
  rw [settle_apply, checked_eq_ok.mpr ⟨rfl, hv⟩]

/-! ### The two forms -/

/-- Two runs give the same result and leave the same session, but for the number of steps. -/
def SameOutcome (r r' : Except RunError α × Session σ) : Prop :=
  ∃ n, r' = (r.1, r.2.later n)

variable [Host σ]

/-- What a variable stands for. -/
theorem eval_var (hx : s.lookup x = some b) (h : s.steps < s.maxSteps) :
    eval (.var x) s = (.ok b.held, s.later 1) := by
  have hlater : (s.later 1).lookup x = some b := hx
  rw [eval, Run.tick_bind_of_lt _ h]
  unfold Run.resolveName
  rw [hlater]

/-- An assignment to a variable. -/
theorem exec_assign_var (op : AssignOp) (value : Expr) :
    (exec (.assign (.var x) op value) : Run σ Flow) = Run.tick >>= fun _ =>
      eval value >>= fun right => assigned (.var x) op right >>= fun held =>
        Run.assignVariable x held >>= fun _ => pure .next := by
  simp only [exec, assign, placePath, pure_bind]
  rfl

/-- An operator with a value as the result. -/
theorem eval_operator (left right : Expr) (hop : op.operator? = some operator) :
    (eval (.binary operator left right) : Run σ Operand) = Run.tick >>= fun _ =>
      eval left >>= fun l => eval right >>= fun r =>
        Run.lift (checked (binary operator l r)) >>= fun v => pure (.value v) := by
  cases op <;> cases hop <;> rw [eval] <;> exact nofun

/-- What a compound assignment stores is its operator applied to values. -/
theorem assigned_operator (target : Expr) (right : Operand) (hop : op.operator? = some operator) :
    (assigned target op right : Run σ Operand) = eval target >>= fun current =>
      Run.lift (checked (binaryValue operator current.toValue right.toValue)) >>= fun v =>
        pure (.value v) := by
  cases op with
  | set => exact nomatch hop
  | add =>
      obtain rfl := Option.some.inj hop
      rfl
  | sub =>
      obtain rfl := Option.some.inj hop
      rw [assigned]
      refine bind_congr fun current => ?_
      rw [binaryValue, checked_ofFloat]
      rfl

/-- A compound assignment, where the right-hand side comes first. -/
theorem exec_compound (hop : op.operator? = some operator) (hx : s.lookup x = some b)
    (h : s.steps < s.maxSteps) (he : eval e (s.later 1) = (.ok o, t))
    (ht : t.steps < t.maxSteps) :
    exec (.assign (.var x) op e) s =
      settle x (binaryValue operator b.held.toValue o.toValue) (t.later 1) := by
  have hlookup : t.lookup x = some b := by
    have hsame := (eval_observes e).same (s.later 1)
    rw [he] at hsame
    exact (hsame.lookup x).trans hx
  rw [exec_assign_var, Run.tick_bind_of_lt _ h, Run.bind_apply, he]
  dsimp only
  rw [assigned_operator _ _ hop]
  simp only [bind_assoc, pure_bind]
  rw [Run.bind_apply, eval_var hlookup ht]
  rfl

/-- The plain form of it, where the variable comes first. -/
theorem exec_plain (hop : op.operator? = some operator) (hx : s.lookup x = some b)
    (h : s.steps + 2 < s.maxSteps) :
    exec (.assign (.var x) .set (.binary operator (.var x) e)) s =
      (eval e >>= fun o => settle x (binary operator b.held o)) (s.later 3) := by
  have hlookup : ((s.later 1).later 1).lookup x = some b := hx
  have hsecond : (s.later 1).steps < (s.later 1).maxSteps := by
    change s.steps + 1 < s.maxSteps
    omega
  rw [exec_assign_var, eval_operator _ _ hop]
  simp only [bind_assoc, pure_bind, assigned]
  rw [Run.tick_bind_of_lt _ (by omega), Run.tick_bind_of_lt _ hsecond, Run.bind_apply,
    eval_var hlookup h]
  rfl

/-- The limit stops the plain form if it does not allow its first three steps. -/
theorem exec_plain_of_le (hop : op.operator? = some operator) (h : s.maxSteps ≤ s.steps + 2) :
    (exec (.assign (.var x) .set (.binary operator (.var x) e)) s).1 =
      .error (.stepLimit s.maxSteps) := by
  rw [exec_assign_var, eval_operator _ _ hop]
  simp only [bind_assoc, pure_bind, assigned]
  rcases Nat.lt_or_ge s.steps s.maxSteps with hfirst | hfirst
  · rw [Run.tick_bind_of_lt _ hfirst]
    rcases Nat.lt_or_ge (s.steps + 1) s.maxSteps with hsecond | hsecond
    · have hstop : eval (.var x) ((s.later 1).later 1) =
          (.error (.stepLimit s.maxSteps), s.later 3) := by
        rw [eval]
        exact Run.tick_bind_of_le _ h
      rw [Run.tick_bind_of_lt _ (show (s.later 1).steps < (s.later 1).maxSteps from hsecond),
        Run.bind_apply, hstop]
    · rw [Run.tick_bind_of_le _ (show (s.later 1).maxSteps ≤ (s.later 1).steps from hsecond)]
      rfl
  · rw [Run.tick_bind_of_le _ hfirst]

/-- **A compound assignment to a variable does what the plain one does**, if there are enough steps
for that and both operands are values. Otherwise the compound one takes null for an operand that is
no value, and the plain one gives `false`. -/
theorem compound_agrees (hop : op.operator? = some operator) (hx : s.lookup x = some b)
    (hsteps : (exec (.assign (.var x) .set (.binary operator (.var x) e)) s).1 ≠
      .error (.stepLimit s.maxSteps)) :
    let compound := exec (.assign (.var x) op e) s
    let plain := exec (.assign (.var x) .set (.binary operator (.var x) e)) s
    SameOutcome compound plain ∨
      ∃ o t, eval e (s.later 1) = (.ok o, t) ∧ (b.held.isValue && o.isValue) = false ∧
        SameOutcome (settle x (binaryValue operator b.held.toValue o.toValue) t) compound ∧
        SameOutcome (settle x (.bool false) t) plain := by
  intro compound plain
  have hlt : s.steps + 2 < s.maxSteps :=
    Nat.lt_of_not_le fun hle => hsteps (exec_plain_of_le hop hle)
  have hplain := exec_plain (e := e) hop hx hlt
  rw [hplain, Run.bind_apply] at hsteps
  -- the right-hand side does the same two steps later
  have hlater : eval e (s.later 3) = ((eval e (s.later 1)).1, (eval e (s.later 1)).2.later 2) :=
    ((eval_observes e).later (s.later 1) 2).resolve_left fun hstop => hsteps (by
      change (eval e (s.later 3)).1 = _ at hstop
      generalize eval e (s.later 3) = out at hstop
      obtain ⟨result, t⟩ := out
      obtain rfl : result = _ := hstop
      rfl)
  have hwithin := (eval_observes e).within (s.later 3) hlt
  have hmax := ((eval_observes e).same (s.later 1)).maxSteps
  cases hright : eval e (s.later 1) with
  | mk result t =>
      rw [hright] at hlater hmax
      rw [hlater] at hwithin
      cases result with
      | error err =>
          refine .inl ⟨2, ?_⟩
          have hcompound : compound = (.error err, t) := by
            rw [show compound = _ from congrFun (exec_assign_var op e) s,
              Run.tick_bind_of_lt _ (by omega), Run.bind_apply, hright]
          rw [hcompound, show plain = _ from hplain, Run.bind_apply, hlater]
      | ok o =>
          have ht : t.steps + 2 ≤ s.maxSteps := hwithin.resolve_left nofun
          have htmax : t.maxSteps = s.maxSteps := hmax
          have hcompound : compound = settle x _ (t.later 1) :=
            exec_compound hop hx (by omega) hright (by omega)
          have hplain : plain = settle x (binary operator b.held o) (t.later 2) := by
            rw [show plain = _ from hplain, Run.bind_apply, hlater]
          rw [binary_operator _ _ hop] at hplain
          cases hvalues : b.held.isValue && o.isValue with
          | true =>
              rw [hvalues, if_pos rfl] at hplain
              exact .inl ⟨1, by rw [hplain, hcompound, ← settle_later, Session.later_later]⟩
          | false =>
              rw [hvalues, if_neg Bool.false_ne_true] at hplain
              exact .inr ⟨o, t, rfl, hvalues, ⟨1, by rw [hcompound, settle_later]⟩,
                ⟨2, by rw [hplain, settle_later]⟩⟩

/-- A text is put behind another one in both ways. -/
theorem compound_agrees_texts :
    let s : Session Console := (Session.start {} none 10).bind "t" (.value (.str "a"))
    let compound := exec (.assign (.var "t") .add (.literal (.str "b"))) s
    let plain := exec (.assign (.var "t") .set (.binary .add (.var "t") (.literal (.str "b")))) s
    plain.1 ≠ .error (.stepLimit 10) ∧ SameOutcome compound plain := by
  intro s compound plain
  have hop : AssignOp.add.operator? = some .add := rfl
  have hplain : plain.1 = .ok .next := by
    rw [show plain = _ from exec_plain hop rfl (by decide), Run.bind_apply,
      show eval (.literal (.str "b")) (s.later 3) = (.ok (.value (.str "b")), s.later 4) from rfl]
    dsimp only
    rw [settle_of_le (by decide)]
    rfl
  have hsteps : plain.1 ≠ .error (.stepLimit 10) := by
    rw [hplain]
    exact nofun
  refine ⟨hsteps, (compound_agrees hop rfl hsteps).resolve_right ?_⟩
  rintro ⟨o, t, heval, hvalues, -⟩
  cases heval
  exact nomatch hvalues

/-- The accessor is empty as a text for the compound assignment, and the plain one gives `false`. -/
theorem compound_differs :
    let s : Session Console := (Session.start {} none 10).bind "a" .accessor
    let compound := exec (.assign (.var "a") .add (.literal (.str "b"))) s
    let plain := exec (.assign (.var "a") .set (.binary .add (.var "a") (.literal (.str "b")))) s
    compound.1 = .ok .next ∧ plain.1 = .ok .next ∧
      compound.2.lookup "a" = some ⟨.value (.str "b"), false⟩ ∧
      plain.2.lookup "a" = some ⟨.value (.bool false), false⟩ := by
  intro s compound plain
  have hop : AssignOp.add.operator? = some .add := rfl
  have hfirst : eval (.literal (.str "b")) (s.later 1) = (.ok (.value (.str "b")), s.later 2) := rfl
  have hlast : eval (.literal (.str "b")) (s.later 3) = (.ok (.value (.str "b")), s.later 4) := rfl
  have hcompound : compound = _ := exec_compound hop rfl (by decide) hfirst (by decide)
  have hplain : plain = _ := exec_plain hop rfl (by decide)
  rw [Run.bind_apply, hlast] at hplain
  dsimp only at hplain
  rw [settle_of_le (by decide)] at hcompound hplain
  rw [hcompound, hplain]
  exact ⟨rfl, rfl, rfl, rfl⟩

end WidgetFlow.Script
