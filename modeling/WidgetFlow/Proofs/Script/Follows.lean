import WidgetFlow.Proofs.Script.Budget
import WidgetFlow.Proofs.Script.Visit

/-!
# Computations within the size budget

A run starts with values within the size budget: the literals of the code, and what the variables
hold. The check of sizes stands at most places where a value can grow, and at one kind of place it
is missing: the text of a value (`toString`, `String`), which may be longer than the value is large,
is given as it is. So is the id of a selection, which comes from the host.

`Follows pre visits run Q` says of one computation that it takes one step for each of its visits,
and that the budget can only be lost at such a place: if every expression without a check gives a
value within the budget, then every expression does. The condition `pre` is what is known of the
operands that the computation works on. `Follows` composes along `bind`; this module has it for
every computation that is no expression and no statement.

## Main results

* `Follows.bind`, `Follows.entering`: computations in turn, and the visit at the start of one.
* `resolveName_follows`, `assignVariable_follows`, `assignBelow_follows`: the variables.
* `callOperand_follows`, `callMember_follows`: the calls, on a host without components.
-/

namespace WidgetFlow.Script

variable {α β : Type}

/-! ### Values within the budget -/

/-- An operand that stands for a value within the budget. -/
def Operand.Fits (o : Operand) : Prop := o.toValue.size ≤ maxValueSize

/-- What the variables of a scope hold is within the budget. -/
def Scope.Fits (scope : Scope) : Prop := ∀ b ∈ scope, b.2.held.Fits

/-- What a session holds is within the budget: its variables, and the last value. -/
structure Session.Fits {σ : Type} (s : Session σ) : Prop where
  outer : s.outer.Fits
  inner : ∀ scope ∈ s.inner, Scope.Fits scope
  completion : s.completion.Fits

/-- Whether an expression may give a value without a check that is no part of another value: a call
of `toString`, or of something that is no member, as `String` is not, and the member called `id`. -/
def Expr.unchecked : Expr → Bool
  | .call (.member _ method) _ => method = "toString"
  | .call _ _ => true
  | .member _ name => name = "id"
  | _ => false

namespace Visit

/-- What a visited expression gives is within the budget, if it gives anything. -/
def Fits : Visit Console → Prop
  | .expr e s => ∀ o t, eval e s = (.ok o, t) → o.Fits
  | .stmt _ _ => True

/-- A visit of an expression that gives its value without a check. -/
def IsUnchecked : Visit Console → Prop
  | .expr e _ => e.unchecked = true
  | .stmt _ _ => False

/-- A visit of a literal. -/
def IsLiteral : Visit Console → Prop
  | .expr (.literal _) _ => True
  | _ => False

end Visit

/-! ### Sessions -/

section Sessions

variable {σ : Type} {s t : Session σ} {name : String} {held : Operand}

/-- A scope in which a variable is set to what is within the budget. -/
theorem Scope.Fits.insert {scope : Scope} (h : scope.Fits) (hheld : held.Fits) (constant : Bool) :
    Scope.Fits (Dict.insert scope name ⟨held, constant⟩) := fun e he => by
  rcases Dict.mem_insert he with rfl | he
  · exact hheld
  · exact h e he

/-- A scope in which what a variable holds is replaced by what is within the budget. -/
theorem Scope.Fits.modify {scope : Scope} (h : scope.Fits) (hheld : held.Fits) :
    Scope.Fits (Dict.modify scope name fun b => { b with held }) := fun e he => by
  rcases Dict.mem_modify he with he | ⟨b, -, rfl⟩
  · exact h e he
  · exact hheld

/-- Nothing is bound to what is beyond the budget. -/
theorem Session.Fits.lookup {b : Binding} (hs : s.Fits) (hb : s.lookup name = some b) :
    b.held.Fits := by
  rw [Session.lookup] at hb
  cases hf : s.inner.findSome? (Dict.get? · name) with
  | some b' =>
      rw [hf] at hb
      obtain rfl := Option.some.inj hb
      obtain ⟨scope, hscope, hb'⟩ := List.exists_of_findSome?_eq_some hf
      exact hs.inner scope hscope _ (Dict.mem_of_get? hb')
  | none =>
      rw [hf] at hb
      exact hs.outer _ (Dict.mem_of_get? hb)

/-- Scopes in one of which a variable is set to what is within the budget. -/
theorem fits_replaceIn {scopes scopes' : List Scope} (h : ∀ scope ∈ scopes, Scope.Fits scope)
    (hheld : held.Fits) (hr : Session.replaceIn name held scopes = some scopes') :
    ∀ scope ∈ scopes', Scope.Fits scope := by
  induction scopes generalizing scopes' with
  | nil => exact nomatch hr
  | cons first rest ih =>
      have hfirst := h first List.mem_cons_self
      have hrest : ∀ scope ∈ rest, Scope.Fits scope := fun scope hm =>
        h scope (List.mem_cons_of_mem _ hm)
      rw [Session.replaceIn] at hr
      split at hr
      · next b hb =>
          obtain rfl := Option.some.inj hr
          exact List.forall_mem_cons.mpr ⟨hfirst.modify hheld, hrest⟩
      · obtain ⟨rest', hr', rfl⟩ := Option.map_eq_some_iff.mp hr
        exact List.forall_mem_cons.mpr ⟨hfirst, ih hrest hr'⟩

/-- Replacing what a variable holds keeps a session within the budget. -/
theorem Session.Fits.replace (hs : s.Fits) (hheld : held.Fits) : (s.replace name held).Fits := by
  rw [Session.replace]
  split
  · next inner hinner => exact ⟨hs.outer, fits_replaceIn hs.inner hheld hinner, hs.completion⟩
  · exact ⟨hs.outer.modify hheld, hs.inner, hs.completion⟩

/-- Binding a variable keeps a session within the budget. -/
theorem Session.Fits.bind (hs : s.Fits) (hheld : held.Fits) : (s.bind name held).Fits :=
  ⟨hs.outer.insert hheld false, hs.inner, hs.completion⟩

/-- A result behind a check that did not fail. -/
theorem of_ite_error_eq_ok {α : Type} {c : Prop} [Decidable c] {e : RunError}
    {result : Except RunError α} {a : α} (h : (if c then .error e else result) = .ok a) :
    result = .ok a := by
  split at h
  · exact nomatch h
  · exact h

/-- A declaration adds a variable to the outermost scope or to the innermost one. -/
theorem Session.declare_cases {kind : DeclKind} (h : s.declare kind name held = .ok t) :
    t = { s with outer := Dict.insert s.outer name ⟨held, kind == .constant⟩ } ∨
    ∃ scope rest, s.inner = scope :: rest ∧
      t = { s with inner := Dict.insert scope name ⟨held, kind == .constant⟩ :: rest } := by
  replace h := of_ite_error_eq_ok h
  cases kind with
  | handler => exact .inl (Except.ok.inj h).symm
  | _ =>
    cases hinner : s.inner with
    | nil =>
        rw [hinner] at h
        exact .inl (Except.ok.inj h).symm
    | cons scope rest =>
        rw [hinner] at h
        exact .inr ⟨scope, rest, rfl, (Except.ok.inj h).symm⟩

/-- Declaring a variable keeps a session within the budget. -/
theorem Session.Fits.declare {kind : DeclKind} (hs : s.Fits) (hheld : held.Fits)
    (h : s.declare kind name held = .ok t) : t.Fits := by
  rcases Session.declare_cases h with rfl | ⟨scope, rest, hinner, rfl⟩
  · exact ⟨hs.outer.insert hheld _, hs.inner, hs.completion⟩
  · have hscopes := hs.inner
    rw [hinner, List.forall_mem_cons] at hscopes
    exact ⟨hs.outer, List.forall_mem_cons.mpr ⟨hscopes.1.insert hheld _, hscopes.2⟩, hs.completion⟩

/-- A new scope is within the budget. -/
theorem Session.Fits.push (hs : s.Fits) : s.push.Fits :=
  ⟨hs.outer, List.forall_mem_cons.mpr ⟨nofun, hs.inner⟩, hs.completion⟩

/-- Leaving a scope keeps a session within the budget. -/
theorem Session.Fits.pop (hs : s.Fits) : s.pop.Fits :=
  ⟨hs.outer, fun scope h => hs.inner scope (List.mem_of_mem_tail h), hs.completion⟩

end Sessions

/-! ### Following a computation -/

/-- What is said of a computation and its visits, provided `pre`. It takes one step for each visit.
From a session within the budget, if what is given without a check is within the budget, then so is
what every visit gives; and if the computation succeeds, then the session is still within the budget
and `Q` holds of the result. A failure may leave a variable beyond the budget, but nothing is
visited behind it. -/
structure Follows (pre : Prop) (visits : Visits Console) (run : Run Console α) (Q : α → Prop) :
    Prop where
  steps (s : Session Console) : (run s).2.steps = s.steps + (visits s).length
  fits (hpre : pre) (s : Session Console) (hs : s.Fits)
    (hgiven : ∀ visit ∈ visits s, visit.IsLiteral ∨ visit.IsUnchecked → visit.Fits) :
    (∀ visit ∈ visits s, visit.Fits) ∧ ∀ a t, run s = (.ok a, t) → t.Fits ∧ Q a

namespace Follows

variable {pre : Prop} {visits : Visits Console} {run : Run Console α} {P Q : α → Prop}

/-- A weaker result is a result. -/
theorem imp (h : Follows pre visits run P) (hQ : pre → ∀ a, P a → Q a) :
    Follows pre visits run Q where
  steps := h.steps
  fits hpre s hs hgiven :=
    have hfits := h.fits hpre s hs hgiven
    ⟨hfits.1, fun a t ht => (hfits.2 a t ht).imp_right (hQ hpre a)⟩

/-- Two computations in turn. -/
theorem bind {next : α → Visits Console} {f : α → Run Console β} {R : β → Prop}
    (h : Follows pre visits run Q) (hnext : ∀ a, Follows (pre ∧ Q a) (next a) (f a) R) :
    Follows pre (.andThen visits run next) (run >>= f) R where
  steps s := by
    have hsteps := h.steps s
    change (ExceptT.bindCont f (run s).1 (run s).2).2.steps = _
    rw [Visits.andThen, List.length_append, ← Nat.add_assoc, ← hsteps]
    generalize run s = out
    obtain ⟨result, t⟩ := out
    cases result with
    | error e => rfl
    | ok a => exact (hnext a).steps t
  fits hpre s hs hgiven := by
    rw [Visits.andThen] at hgiven ⊢
    simp only [List.forall_mem_append] at hgiven ⊢
    have hfits := h.fits hpre s hs hgiven.1
    have hrun : (run >>= f) s = ExceptT.bindCont f (run s).1 (run s).2 := rfl
    rw [hrun]
    revert hgiven
    generalize run s = out at hfits
    obtain ⟨result, t⟩ := out
    intro hgiven
    cases result with
    | error e => exact ⟨⟨hfits.1, nofun⟩, fun b u hu => nomatch hu⟩
    | ok a =>
        have ha := hfits.2 a t rfl
        have hlater := (hnext a).fits ⟨hpre, ha.2⟩ t ha.1 hgiven.2
        exact ⟨⟨hfits.1, hlater.1⟩, hlater.2⟩

/-- A computation and then one without visits. -/
theorem bindQuiet {f : α → Run Console β} {R : β → Prop} (h : Follows pre visits run Q)
    (hnext : ∀ a, Follows (pre ∧ Q a) .none (f a) R) : Follows pre visits (run >>= f) R := by
  have hvisits : Visits.andThen visits run (fun _ => .none) = visits := by
    funext s
    rw [Visits.andThen]
    split <;> exact List.append_nil _
  have hbind := h.bind hnext
  rwa [hvisits] at hbind

/-- A computation without visits. -/
theorem quiet (hsteps : ∀ s, (run s).2.steps = s.steps)
    (hfits : pre → ∀ {s}, s.Fits → ∀ a t, run s = (.ok a, t) → t.Fits ∧ Q a) :
    Follows pre .none run Q where
  steps := hsteps
  fits hpre _ hs _ := ⟨nofun, hfits hpre hs⟩

/-- A computation that leaves the session as it is. -/
theorem still (hstill : ∀ s, (run s).2 = s)
    (hQ : pre → ∀ {s}, s.Fits → ∀ a, (run s).1 = .ok a → Q a) : Follows pre .none run Q :=
  .quiet (fun s => by rw [hstill]) fun hpre s hs a t ht => by
    have hsnd := hstill s
    rw [ht] at hsnd
    subst hsnd
    exact ⟨hs, hQ hpre hs a (congrArg Prod.fst ht)⟩

/-- Giving a result. -/
theorem pure {a : α} (hQ : pre → Q a) : Follows pre .none (Pure.pure a : Run Console α) Q :=
  .still (fun _ => rfl) fun hpre _ _ _ hb => Except.ok.inj hb ▸ hQ hpre

/-- Failing. -/
theorem throw (e : RunError) : Follows pre .none (throw e : Run Console α) Q :=
  .still (fun _ => rfl) fun _ _ _ _ hb => nomatch hb

/-- A pure computation. -/
theorem lift {result : Except RunError α} (hQ : pre → ∀ a, result = .ok a → Q a) :
    Follows pre .none (Run.lift result : Run Console α) Q :=
  .still (fun _ => rfl) fun hpre _ _ a ha => hQ hpre a ha

/-- A computation in a scope of its own. -/
theorem inScope (h : Follows pre visits run Q) :
    Follows pre (.inScope visits) (Run.inScope run) Q where
  steps s := h.steps s.push
  fits hpre s hs hgiven := by
    have hfits := h.fits hpre s.push hs.push hgiven
    refine ⟨hfits.1, fun a t ht => ?_⟩
    obtain ⟨hres, rfl⟩ := Prod.mk.inj ht
    have hrun := hfits.2 a (run s.push).2 (Prod.ext hres rfl)
    exact ⟨hrun.1.pop, hrun.2⟩

/-- A visit takes a step, and what is below it is visited unless that was one step too many. -/
theorem tick_cases (visit : Session Console → Visit Console) (visits : Visits Console)
    (run : Run Console α) (s : Session Console) :
    (∃ e, (Run.tick >>= fun _ => run) s = (.error e, { s with steps := s.steps + 1 }) ∧
      Visits.entering visit visits s = [visit s]) ∨
    ((Run.tick >>= fun _ => run) s = run { s with steps := s.steps + 1 } ∧
      Visits.entering visit visits s = visit s :: visits { s with steps := s.steps + 1 }) := by
  have hrun : (Run.tick >>= fun _ => run) s =
      ExceptT.bindCont (fun _ => run) (Run.tick s).1 (Run.tick s).2 := rfl
  rw [hrun, Visits.entering, Visits.andThen, Run.tick]
  dsimp only
  split
  · exact .inl ⟨_, rfl, rfl⟩
  · exact .inr ⟨rfl, rfl⟩

/-- A computation with a visit at its start, and those of the rest below it. -/
theorem entering {visit : Session Console → Visit Console} {R : α → Prop}
    (h : Follows pre visits run Q)
    (hvisit : pre → ∀ s, ((visit s).IsLiteral ∨ (visit s).IsUnchecked → (visit s).Fits) →
      (∀ a t, (Run.tick >>= fun _ => run) s = (.ok a, t) → Q a) →
      (visit s).Fits ∧ ∀ a t, (Run.tick >>= fun _ => run) s = (.ok a, t) → R a) :
    Follows pre (.entering visit visits) (Run.tick >>= fun _ => run) R where
  steps s := by
    rcases tick_cases visit visits run s with ⟨e, hrun, hv⟩ | ⟨hrun, hv⟩
    · rw [hrun, hv]
      rfl
    · rw [hrun, hv, h.steps, List.length_cons]
      exact Nat.succ_add_eq_add_succ _ _
  fits hpre s hs hgiven := by
    have hticked : Session.Fits { s with steps := s.steps + 1 } :=
      ⟨hs.outer, hs.inner, hs.completion⟩
    rcases tick_cases visit visits run s with ⟨e, hrun, hv⟩ | ⟨hrun, hv⟩
    · rw [hv] at hgiven ⊢
      rw [List.forall_mem_singleton] at hgiven ⊢
      refine ⟨(hvisit hpre s hgiven fun a t ht => ?_).1, fun a t ht => ?_⟩ <;>
        exact nomatch hrun.symm.trans ht
    · rw [hv, List.forall_mem_cons] at hgiven
      have hbelow := h.fits hpre _ hticked hgiven.2
      have hhere := hvisit hpre s hgiven.1 fun a t ht => (hbelow.2 a t (hrun ▸ ht)).2
      rw [hv, List.forall_mem_cons]
      exact ⟨⟨hhere.1, hbelow.1⟩, fun a t ht => ⟨(hbelow.2 a t (hrun ▸ ht)).1, hhere.2 a t ht⟩⟩

/-- Running a statement. -/
theorem runs {stmt : Stmt} (h : Follows pre visits run Q) :
    Follows pre (.entering (.stmt stmt) visits) (Run.tick >>= fun _ => run) Q :=
  h.entering fun _ _ _ hrun => ⟨trivial, hrun⟩

/-- Evaluating an expression. What it gives has to be within the budget unless it is a literal or
given without a check. -/
theorem evaluates {e : Expr} {run : Run Console Operand}
    (heval : eval e = Run.tick >>= fun _ => run)
    (h : Follows pre visits run fun o =>
      o.Fits ∨ ∀ s, (Visit.expr e s).IsLiteral ∨ (Visit.expr e s).IsUnchecked) :
    Follows pre (.entering (.expr e) visits) (eval e) Operand.Fits := by
  rw [heval]
  refine h.entering fun _ s hgiven hrun => ?_
  have hfits : (Visit.expr e s).Fits := fun o t ht => by
    have hrun' := ht
    rw [heval] at hrun'
    rcases hrun o t hrun' with ho | he
    · exact ho
    · exact hgiven (he s) o t ht
  refine ⟨hfits, fun o t ht => ?_⟩
  rw [← heval] at ht
  exact hfits o t ht

end Follows

/-! ### Variables -/

section Variables

variable {pre : Prop} {name : String} {held : Operand}

/-- What a name stands for is within the budget. -/
theorem resolveName_follows (name : String) :
    Follows pre .none (Run.resolveName name) Operand.Fits :=
  .still (fun s => by
      unfold Run.resolveName
      split
      · rfl
      · split <;> rfl)
    fun _ s hs o ho => by
      unfold Run.resolveName at ho
      split at ho
      · next b hb =>
          obtain rfl := Except.ok.inj ho
          exact hs.lookup hb
      · split at ho <;> first
          | exact Except.ok.inj ho ▸ one_le_maxValueSize
          | exact nomatch ho

/-- A declaration of what is within the budget. -/
theorem declare_follows (kind : DeclKind) (hheld : pre → held.Fits) :
    Follows pre .none (Run.declare kind name held) fun _ => True :=
  .quiet (fun s => by
      rw [Run.declare]
      split
      · next t ht =>
          rcases Session.declare_cases ht with rfl | ⟨_, _, _, rfl⟩ <;> rfl
      · rfl)
    fun hpre s hs _ t ht => by
      rw [Run.declare] at ht
      split at ht
      · next t' hd =>
          obtain ⟨-, rfl⟩ := Prod.mk.inj ht
          exact ⟨hs.declare (hheld hpre) hd, trivial⟩
      · exact nomatch ht

/-- Replacing what a variable holds takes no step. -/
theorem Session.steps_replace {σ : Type} (s : Session σ) (name : String) (held : Operand) :
    (s.replace name held).steps = s.steps := by
  rw [Session.replace]
  split <;> rfl

/-- An assignment of what is within the budget. -/
theorem assignVariable_follows (hheld : pre → held.Fits) :
    Follows pre .none (Run.assignVariable name held) fun _ => True :=
  .quiet (fun s => by
      rw [Run.assignVariable]
      split
      · split
        · rfl
        · exact s.steps_replace name held
      · rfl)
    fun hpre s hs _ t ht => by
      rw [Run.assignVariable] at ht
      split at ht
      · split at ht
        · exact nomatch ht
        · obtain ⟨-, rfl⟩ := Prod.mk.inj ht
          exact ⟨hs.replace (hheld hpre), trivial⟩
      · obtain ⟨-, rfl⟩ := Prod.mk.inj ht
        exact ⟨hs.bind (hheld hpre), trivial⟩

/-- A write below a variable, which succeeds only if all that the variable then holds is within the
budget. -/
theorem assignBelow_follows (path : List PathStep) (new : Value) :
    Follows pre .none (Run.assignBelow name path new) fun _ => True :=
  .quiet (fun s => by
      rw [Run.assignBelow]
      split
      · rfl
      · split
        · next old _ =>
            generalize write new path old = out
            obtain ⟨done, v⟩ := out
            cases done with
            | error e => exact s.steps_replace name _
            | ok _ =>
                dsimp only
                split <;> exact s.steps_replace name _
        · rfl)
    fun _ s hs _ t ht => by
      rw [Run.assignBelow] at ht
      split at ht
      · exact nomatch ht
      · split at ht
        · next old _ =>
            generalize write new path old = out at ht
            obtain ⟨done, v⟩ := out
            cases done with
            | error e => exact nomatch ht
            | ok _ =>
                dsimp only at ht
                split at ht
                · next hbudget =>
                    obtain ⟨-, rfl⟩ := Prod.mk.inj ht
                    exact ⟨hs.replace (withinBudget_iff.mp hbudget), trivial⟩
                · exact nomatch ht
        · exact nomatch ht

end Variables

/-! ### Calls -/

section Calls

variable {pre : Prop}

/-- Writes to components, of which there are none. -/
theorem writeEach_follows (ids : List String) (write : Console → String → Bool × Console) :
    Follows pre .none (Run.writeEach ids write) fun _ => True := by
  have hkept : ∀ s : Session Console,
      (Run.writeEach ids write s).2.steps = s.steps ∧
        (s.Fits → (Run.writeEach ids write s).2.Fits) := fun s =>
    List.foldlRecOn (motive := fun t : Session Console => t.steps = s.steps ∧ (s.Fits → t.Fits))
      ids _ ⟨rfl, id⟩ fun t ht _ _ =>
        ⟨ht.1, fun hs => ⟨(ht.2 hs).outer, (ht.2 hs).inner, (ht.2 hs).completion⟩⟩
  exact .quiet (fun s => (hkept s).1) fun _ s hs _ t ht => by
    have hfits := (hkept s).2 hs
    rw [ht] at hfits
    exact ⟨hfits, trivial⟩

/-- A call of something that is no member. The text that `String` makes is not checked. -/
theorem callOperand_follows (callee : Operand) (args : List Operand) :
    Follows pre .none (callOperand callee args) fun _ => True := by
  unfold callOperand
  dsimp only
  split
  · exact .still (fun s => by unfold select; split <;> rfl) fun _ _ _ _ _ => trivial
  · exact .pure fun _ => trivial
  · exact .pure fun _ => trivial
  · exact .pure fun _ => trivial
  · exact .throw _

/-- A call of a member of a global. -/
theorem callGlobal_follows (g : Global) (method : String) (args : List Operand) :
    Follows pre .none (callGlobal g method args) Operand.Fits := by
  unfold callGlobal
  split
  · split
    · exact .quiet (fun _ => rfl) fun _ s hs a t ht => by
        obtain ⟨ha, rfl⟩ := Prod.mk.inj ht
        exact ⟨⟨hs.outer, hs.inner, hs.completion⟩, Except.ok.inj ha ▸ one_le_maxValueSize⟩
    · exact .throw _
  · refine .bindQuiet (.lift fun _ w hw => size_mathFunction hw) fun w => .pure fun hw => ?_
    exact hw.2.le.trans one_le_maxValueSize
  · exact .throw _

/-- A call of a member of selected components. Since there are no components, reads give null. -/
theorem callHandle_follows (ids : List String) (method : String) (args : List Operand) :
    Follows pre .none (callHandle ids method args : Run Console Operand) Operand.Fits := by
  have hread : ∀ f : Console → String → Option Value, (∀ h id, f h id = none) →
      Follows pre .none (do
        return Operand.value (← Run.reading fun h => (ids.head?.bind (f h)).getD .null))
        Operand.Fits := fun f hf => by
    refine .bindQuiet (Q := (· = Value.null)) (.still (fun _ => rfl) fun _ s _ v hv => ?_)
      fun v => .pure fun hv => hv.2 ▸ one_le_maxValueSize
    rw [← Except.ok.inj hv]
    cases ids.head? with
    | none => rfl
    | some id => exact congrArg (·.getD Value.null) (hf s.host id)
  have hwrite : ∀ f : Console → String → Bool × Console,
      Follows pre .none (do
        Run.writeEach ids f
        return Operand.handle ids) Operand.Fits := fun f =>
    .bindQuiet (writeEach_follows ids f) fun _ => .pure fun _ => one_le_maxValueSize
  unfold callHandle
  dsimp only
  split
  · exact hread _ fun _ _ => rfl
  · exact hread _ fun _ _ => rfl
  · split <;> exact hread _ fun _ _ => rfl
  · exact hwrite _
  · exact hwrite _
  · exact hwrite _
  · exact hwrite _
  · exact hwrite _
  · exact hwrite _
  · exact hwrite _
  · exact .throw _

/-- A call of a member. The text that `toString` makes is not checked. -/
theorem callMember_follows (receiver : Operand) (method : String) (args : List Operand) :
    Follows pre .none (callMember receiver method args) fun o => o.Fits ∨ method = "toString" := by
  cases receiver with
  | value v =>
      refine .bindQuiet (.lift (Q := fun w => w.size ≤ maxValueSize ∨ method = "toString")
        fun _ w hw => ?_) fun w => .pure fun hw => hw.2
      exact or_iff_not_imp_right.mpr fun hmethod => size_valueMethod hmethod hw
  | handle ids => exact (callHandle_follows ids method args).imp fun _ _ => .inl
  | global g => exact (callGlobal_follows g method args).imp fun _ _ => .inl
  | accessor => exact .throw _

end Calls

end WidgetFlow.Script
