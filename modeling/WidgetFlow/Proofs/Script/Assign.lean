import WidgetFlow.Proofs.Script.Budget
import WidgetFlow.Proofs.Script.Lens
import WidgetFlow.Proofs.Script.Observe

/-!
# Assignments that fail

An assignment evaluates its right-hand side, what stands at the target if it is a compound one, and
the indices of the target. Until then no variable has changed (`prepare`). Then it writes (`store`).

A write to a variable changes nothing if it fails. A write below a variable happens in place: a path
that cannot be followed leaves everything as it was, but the check of the size comes when the new
value stands already.

## Main results

* `store_failed`: what a write may leave behind if it fails.
* `assign_failed`: **a failed assignment leaves the variables alone**, but for one that fails for
  the size of the value that it has written.
-/

namespace WidgetFlow.Script

variable {σ : Type} {s t : Session σ} {b : Binding} {name : String}

/-! ### Variables -/

/-- Replacing what the first variable of a name holds by what it holds changes no scope. -/
theorem replaceIn_of_findSome? {scopes : List Scope}
    (h : scopes.findSome? (Dict.get? · name) = some b) :
    Session.replaceIn name b.held scopes = some scopes := by
  induction scopes with
  | nil => exact nomatch h
  | cons scope rest ih =>
      rw [List.findSome?_cons] at h
      rw [Session.replaceIn]
      cases hb : Dict.get? scope name with
      | some b' =>
          rw [hb] at h
          obtain rfl := Option.some.inj h
          have hkept : Dict.modify scope name (fun c => { c with held := b'.held }) = scope :=
            Dict.modify_eq_self fun c hc => by rw [Option.some.inj (hc.symm.trans hb)]
          exact congrArg (fun first => some (first :: rest)) hkept
      | none =>
          rw [hb] at h
          dsimp only
          rw [ih h]
          rfl

/-- No scope has a variable of a name that is not found. -/
theorem replaceIn_of_none {scopes : List Scope} (held : Operand)
    (h : scopes.findSome? (Dict.get? · name) = none) :
    Session.replaceIn name held scopes = none := by
  induction scopes with
  | nil => rfl
  | cons scope rest ih =>
      rw [List.findSome?_cons] at h
      rw [Session.replaceIn]
      cases hb : Dict.get? scope name with
      | some b =>
          rw [hb] at h
          exact nomatch h
      | none =>
          rw [hb] at h
          dsimp only
          rw [ih h]
          rfl

/-- Replacing what a variable holds by what it holds changes nothing. -/
theorem Session.replace_held (h : s.lookup name = some b) : s.replace name b.held = s := by
  rw [Session.lookup] at h
  rw [Session.replace]
  cases hinner : s.inner.findSome? (Dict.get? · name) with
  | some b' =>
      rw [hinner] at h
      obtain rfl := Option.some.inj h
      rw [replaceIn_of_findSome? hinner]
  | none =>
      rw [hinner] at h
      rw [replaceIn_of_none b.held hinner]
      dsimp only
      rw [Dict.modify_eq_self fun c hc => by rw [Option.some.inj (hc.symm.trans h)]]

/-- Sessions with the same variables have the same variables after the same is replaced. -/
theorem Session.SameVariables.replace (h : s.SameVariables t) (name : String) (held : Operand) :
    (s.replace name held).SameVariables (t.replace name held) := by
  rw [Session.replace, Session.replace, h.inner]
  split
  · exact ⟨h.outer, rfl, h.maxSteps⟩
  · exact ⟨congrArg (Dict.modify · name fun b => { b with held }) h.outer, rfl, h.maxSteps⟩

/-! ### Failures -/

variable {held : Operand} {root : String} {path : List PathStep} {e : RunError}

/-- Writes to a place. -/
def store (held : Operand) (root : String) (path : List PathStep) : Run σ Unit :=
  if path.isEmpty then Run.assignVariable root held else Run.assignBelow root path held.toValue

/-- Below a variable stands a value beyond the budget, which was written there. -/
def Overdrawn (held : Operand) (root : String) (path : List PathStep) (s t : Session σ) : Prop :=
  ∃ b old v, s.lookup root = some b ∧ b.held = .value old ∧ path ≠ [] ∧
    write held.toValue path old = (.ok (), v) ∧ maxValueSize < v.size ∧
    (s.replace root (.value v)).SameVariables t

/-- Only the variables from before matter for what is beyond the budget. -/
theorem Overdrawn.of_same {u : Session σ} (h : Overdrawn held root path u t)
    (hsame : s.SameVariables u) : Overdrawn held root path s t := by
  obtain ⟨b, old, v, hb, hold, hpath, hwrite, hsize, hleft⟩ := h
  rw [hsame.lookup] at hb
  exact ⟨b, old, v, hb, hold, hpath, hwrite, hsize, (hsame.replace root _).trans hleft⟩

/-- A write that fails changes nothing, unless what it has written is too large. -/
theorem store_failed (h : store held root path s = (.error e, t)) :
    t = s ∨ e = .tooLarge maxValueSize ∧ Overdrawn held root path s t := by
  rw [store] at h
  split at h
  · refine .inl ?_
    rw [Run.assignVariable] at h
    split at h
    · split at h
      · exact (Prod.mk.inj h).2.symm
      · cases h
    · cases h
  · next hpath =>
      rw [Run.assignBelow] at h
      split at h
      · exact .inl (Prod.mk.inj h).2.symm
      · next b hb =>
          split at h
          · next old hold =>
              cases hdone : (write held.toValue path old).1 with
              | error e' =>
                  -- what stands there is what stood there
                  have hkept := (write_of_error hdone).1
                  dsimp only at h
                  rw [hdone, hkept, ← hold, Session.replace_held hb] at h
                  exact .inl (Prod.mk.inj h).2.symm
              | ok u =>
                  dsimp only at h
                  rw [hdone] at h
                  dsimp only at h
                  split at h
                  · cases h
                  · next hsize =>
                      obtain ⟨he, rfl⟩ := Prod.mk.inj h
                      refine .inr ⟨(Except.error.inj he).symm, b, old, _, hb, hold, ?_,
                        Prod.ext hdone rfl, ?_, .refl _⟩
                      · rintro rfl
                        exact hpath rfl
                      · rw [withinBudget_iff] at hsize
                        exact Nat.lt_of_not_le hsize
          · exact .inl (Prod.mk.inj h).2.symm

variable [Host σ] {target value : Expr} {op : AssignOp}

/-- What an assignment evaluates before it writes: what it stores, and the place. -/
def prepare (target : Expr) (op : AssignOp) (value : Expr) :
    Run σ (Operand × String × List PathStep) := do
  Run.tick
  let right ← eval value
  let held ← assigned target op right
  let place ← placePath target
  return (held, place)

/-- An assignment first evaluates, and then writes. -/
theorem exec_assign (target : Expr) (op : AssignOp) (value : Expr) :
    (exec (.assign target op value) : Run σ Flow) =
      prepare target op value >>= fun (held, root, path) =>
        store held root path >>= fun _ => pure .next := by
  simp only [exec, assign, prepare, store, bind_assoc, pure_bind]

/-- Before an assignment writes, no variable has changed. -/
theorem prepare_observes (target : Expr) (op : AssignOp) (value : Expr) :
    Run.Observes (prepare target op value : Run σ (Operand × String × List PathStep)) :=
  .bind .tick fun _ => .bind (eval_observes value) fun right =>
    .bind (assigned_observes target op right) fun _ =>
      .bind (placePath_observes target) fun _ => observes_evaluates.lift (.ok _)

/-- **A failed assignment leaves the variables alone**, whatever it fails for, unless it fails for
the size of what it has written below a variable. Then the variable keeps it. -/
theorem assign_failed (h : exec (.assign target op value) s = (.error e, t)) :
    s.SameVariables t ∨
      e = .tooLarge maxValueSize ∧ ∃ held root path u,
        prepare target op value s = (.ok (held, root, path), u) ∧ Overdrawn held root path s t := by
  rw [exec_assign, Run.bind_apply] at h
  have hprepared := (prepare_observes target op value).same s
  generalize hrun : prepare target op value s = out at h hprepared
  obtain ⟨result, u⟩ := out
  cases result with
  | error e' =>
      obtain ⟨-, rfl⟩ := Prod.mk.inj h
      exact .inl hprepared
  | ok found =>
      obtain ⟨held, root, path⟩ := found
      dsimp only at h hprepared
      rw [Run.bind_apply] at h
      cases hstore : store held root path u with
      | mk done u' =>
          rw [hstore] at h
          cases done with
          | ok _ => exact nomatch h
          | error e' =>
              obtain ⟨he, rfl⟩ := Prod.mk.inj h
              obtain rfl := Except.error.inj he
              rcases store_failed hstore with rfl | ⟨rfl, hover⟩
              · exact .inl hprepared
              · exact .inr ⟨rfl, held, root, path, u, rfl, hover.of_same hprepared⟩

/-- A path that leads into a truth value fails, and the variable is as it was. -/
theorem assign_failed_inside :
    let s : Session Console :=
      (Session.start {} none 10).bind "o" (.value (.obj [("a", .bool true)]))
    let target : Expr := .member (.member (.var "o") "a") "b"
    exec (.assign target .set (.literal .null)) s = (.error .invalidTarget, s.later 2) ∧
      s.SameVariables (s.later 2) := by
  intro s target
  have hrun : exec (.assign target .set (.literal .null)) s =
      (.error .invalidTarget, s.later 2) := by
    simp only [target, exec_assign]
    rfl
  refine ⟨hrun, (assign_failed hrun).resolve_right fun h => ?_⟩
  exact nomatch h.1

/-- A session with an empty record, and another value. -/
def beside (v : Value) : Session Console :=
  ((Session.start {} none 10).bind "o" (.value (.obj []))).bind "v" (.value v)

/-- A value that is as large as the budget allows is too large to be put into a record, and the
record keeps it. -/
theorem exec_beside {v : Value} (hv : v.size = maxValueSize) :
    exec (.assign (.member (.var "o") "k") .set (.var "v")) (beside v) =
      (.error (.tooLarge maxValueSize),
        ((beside v).later 2).replace "o" (.value (.obj [("k", v)]))) := by
  have hover : withinBudget (.obj [("k", v)]) = false := by
    rw [Bool.eq_false_iff, Ne, withinBudget_iff, Value.size, Value.fieldsSize, hv]
    exact Nat.not_le_of_gt (Nat.lt_add_of_pos_left (by decide))
  have hprepare : prepare (.member (.var "o") "k") .set (.var "v") (beside v) =
      (.ok (.value v, "o", [.key "k"]), (beside v).later 2) := by
    simp only [prepare, eval]
    rfl
  have hstore : store (.value v) "o" [.key "k"] ((beside v).later 2) =
      (.error (.tooLarge maxValueSize),
        ((beside v).later 2).replace "o" (.value (.obj [("k", v)]))) := by
    change (if withinBudget (.obj [("k", v)]) = true then _ else _) = _
    rw [hover]
    rfl
  rw [exec_assign, Run.bind_apply, hprepare]
  dsimp only
  rw [Run.bind_apply, hstore]

/-- The record of such a session, before it is put there and after. -/
theorem lookup_beside (v w : Value) :
    (beside v).lookup "o" = some ⟨.value (.obj []), false⟩ ∧
      (((beside v).later 2).replace "o" (.value w)).lookup "o" = some ⟨.value w, false⟩ :=
  ⟨rfl, rfl⟩

/-- So does a record with a list of 262143 items, all of them null. -/
theorem overdrawn_kept :
    let v : Value := .arr (List.replicate 262143 .null)
    ∃ t, exec (.assign (.member (.var "o") "k") .set (.var "v")) (beside v) =
        (.error (.tooLarge maxValueSize), t) ∧
      (beside v).lookup "o" = some ⟨.value (.obj []), false⟩ ∧
      t.lookup "o" = some ⟨.value (.obj [("k", v)]), false⟩ := by
  intro v
  have hv : v.size = maxValueSize := by
    rw [Value.size, Value.itemsSize_replicate]
    rfl
  exact ⟨_, exec_beside hv, lookup_beside v (.obj [("k", v)])⟩

end WidgetFlow.Script
