import WidgetFlow.Proofs.Script.Follows

/-!
# The values that a run builds

The syntax tree is walked once, for `Follows`. So a run on a host without components keeps all its
values within the budget as long as the texts that it makes without a check are. They need not be:
the text of a list of a third of the budget can be beyond it.

## Main results

* `eval_follows`, `exec_follows`: the walk over expressions and over statements.
* `steps_runProgram`: the visits of a run are as many as its steps.
* `values_fit_iff`: all values of a run are within the budget if and only if the texts and ids that
  are given without a check are.
* `text_exceeds_budget`: there are such texts beyond the budget.
-/

namespace WidgetFlow.Script

/-! ### Expressions -/

section Expressions

/-- A call of something that is no member, clause by clause. -/
theorem eval_call {callee : Expr} (args : List Expr)
    (hcallee : ∀ base method, callee ≠ .member base method) :
    (eval (.call callee args) : Run Console Operand) = Run.tick >>= fun _ =>
      eval callee >>= fun callee => evalArgs args >>= fun args => callOperand callee args := by
  rw [eval]
  exact hcallee

/-- The visits of a call of something that is no member. -/
theorem exprVisits_call {callee : Expr} (args : List Expr)
    (hcallee : ∀ base method, callee ≠ .member base method) :
    (exprVisits (.call callee args) : Visits Console) =
      .entering (.expr (.call callee args))
        (.andThen (exprVisits callee) (eval callee) fun _ => listVisits args) := by
  rw [exprVisits]
  exact hcallee

/-- Such a call is not checked. -/
theorem unchecked_call {callee : Expr} (args : List Expr)
    (hcallee : ∀ base method, callee ≠ .member base method) :
    (Expr.call callee args).unchecked = true := by
  rw [Expr.unchecked]
  exact hcallee

/-- An operator that looks at both operands in any case. -/
theorem eval_binary {op : BinaryOp} (left right : Expr) (hand : op ≠ .and) (hor : op ≠ .or) :
    (eval (.binary op left right) : Run Console Operand) = Run.tick >>= fun _ =>
      eval left >>= fun left => eval right >>= fun right =>
        Run.lift (checked (binary op left right)) >>= fun v => pure (.value v) := by
  rw [eval]
  · exact hand
  · exact hor

/-- The left operand settles nothing for such an operator. -/
theorem settledBy_eq_false {op : BinaryOp} (hand : op ≠ .and) (hor : op ≠ .or) (left : Operand) :
    op.settledBy left = false := by
  cases op <;> first
    | rfl
    | exact absurd rfl hand
    | exact absurd rfl hor

variable {pre : Prop}

/-- What passed the check is within the budget. -/
theorem checked_follows (v : Value) :
    Follows pre .none (do return Operand.value (← Run.lift (checked v))) Operand.Fits :=
  .bindQuiet (.lift fun _ _ hw => (checked_eq_ok.mp hw).1 ▸ (checked_eq_ok.mp hw).2)
    fun _ => .pure And.right

/-- An operand without parts is within the budget. -/
theorem Operand.fits_of_size {v : Value} (h : v.size = 1) : (Operand.value v).Fits :=
  h.le.trans one_le_maxValueSize

mutual

/-- An expression takes a step for each visit, and gives a value within the budget as long as what
is not checked is within it. -/
theorem eval_follows (pre : Prop) : ∀ e : Expr, Follows pre (exprVisits e) (eval e) Operand.Fits
  | .literal v => by
      rw [exprVisits]
      exact .evaluates (by rw [eval]) (.pure fun _ => .inr fun _ => .inl trivial)
  | .array items => by
      rw [exprVisits]
      exact .evaluates (by rw [eval]) (.bindQuiet (evalItems_follows _ items) fun _ =>
        (checked_follows _).imp fun _ _ => .inl)
  | .object entries => by
      rw [exprVisits]
      exact .evaluates (by rw [eval]) (.bindQuiet (evalEntries_follows _ entries) fun _ =>
        (checked_follows _).imp fun _ _ => .inl)
  | .var name => by
      rw [exprVisits]
      exact .evaluates (by rw [eval]) ((resolveName_follows name).imp fun _ _ => .inl)
  | .member base name => by
      rw [exprVisits]
      refine .evaluates (by rw [eval]) (.bindQuiet (eval_follows _ base) fun _ =>
        .pure fun ho => ?_)
      by_cases hname : name = "id"
      · exact .inr fun _ => .inr (decide_eq_true hname)
      · exact .inl ((size_member hname).trans ho.2)
  | .index base index => by
      rw [exprVisits]
      refine .evaluates (by rw [eval]) (.bind (eval_follows _ base) fun _ =>
        .bindQuiet (eval_follows _ index) fun _ => .pure fun ho => ?_)
      exact .inl (size_indexValue _ ho.1.2)
  | .call callee args => by
      by_cases hmember : ∃ base method, callee = .member base method
      · obtain ⟨base, method, rfl⟩ := hmember
        rw [exprVisits]
        refine .evaluates (by rw [eval]) (.bind (eval_follows _ base) fun _ =>
          .bindQuiet (evalArgs_follows _ args) fun _ => (callMember_follows _ method _).imp ?_)
        exact fun _ _ => .imp_right fun hmethod _ => .inr (decide_eq_true hmethod)
      · have hcallee : ∀ base method, callee ≠ .member base method := fun base method h =>
          hmember ⟨base, method, h⟩
        rw [exprVisits_call args hcallee]
        exact .evaluates (eval_call args hcallee) (.bind (eval_follows _ callee) fun _ =>
          .bindQuiet (evalArgs_follows _ args) fun _ => (callOperand_follows _ _).imp fun _ _ _ =>
            .inr fun _ => .inr (unchecked_call args hcallee))
  | .unary .not operand => by
      rw [exprVisits]
      exact .evaluates (by rw [eval]) (.bindQuiet (eval_follows _ operand) fun _ =>
        .pure fun _ => .inl (Operand.fits_of_size rfl))
  | .unary .neg operand => by
      rw [exprVisits]
      exact .evaluates (by rw [eval]) (.bindQuiet (eval_follows _ operand) fun _ =>
        .pure fun _ => .inl (Operand.fits_of_size (Value.size_ofFloat _)))
  | .binary op left right => by
      rw [exprVisits]
      by_cases hand : op = .and
      · subst hand
        refine .evaluates (by rw [eval]) (.bind (eval_follows _ left) fun v => ?_)
        rw [BinaryOp.settledBy]
        cases v.truthy with
        | true => exact (eval_follows _ right).imp fun _ _ => .inl
        | false => exact .pure fun hv => .inl hv.2
      by_cases hor : op = .or
      · subst hor
        refine .evaluates (by rw [eval]) (.bind (eval_follows _ left) fun v => ?_)
        rw [BinaryOp.settledBy]
        cases v.truthy with
        | true => exact .pure fun hv => .inl hv.2
        | false => exact (eval_follows _ right).imp fun _ _ => .inl
      refine .evaluates (eval_binary left right hand hor) (.bind (eval_follows _ left) fun v => ?_)
      rw [settledBy_eq_false hand hor]
      exact .bindQuiet (eval_follows _ right) fun _ => (checked_follows _).imp fun _ _ => .inl
  | .cond test yes no => by
      rw [exprVisits]
      refine .evaluates (by rw [eval]) (.bind (eval_follows _ test) fun v => ?_)
      split
      · exact (eval_follows _ yes).imp fun _ _ => .inl
      · exact (eval_follows _ no).imp fun _ _ => .inl

/-- So do the items of a list. -/
theorem evalItems_follows (pre : Prop) :
    ∀ items : List Expr, Follows pre (listVisits items) (evalItems items) fun _ => True
  | [] => by
      rw [listVisits, evalItems]
      exact .pure fun _ => trivial
  | e :: rest => by
      rw [listVisits, evalItems]
      exact .bind (eval_follows _ e) fun _ =>
        .bindQuiet (evalItems_follows _ rest) fun _ => .pure fun _ => trivial

/-- So do the entries of a record. -/
theorem evalEntries_follows (pre : Prop) : ∀ entries : List (String × Expr),
    Follows pre (entryVisits entries) (evalEntries entries) fun _ => True
  | [] => by
      rw [entryVisits, evalEntries]
      exact .pure fun _ => trivial
  | (k, e) :: rest => by
      rw [entryVisits, evalEntries]
      exact .bind (eval_follows _ e) fun _ =>
        .bindQuiet (evalEntries_follows _ rest) fun _ => .pure fun _ => trivial

/-- So do the arguments of a call. -/
theorem evalArgs_follows (pre : Prop) :
    ∀ args : List Expr, Follows pre (listVisits args) (evalArgs args) fun _ => True
  | [] => by
      rw [listVisits, evalArgs]
      exact .pure fun _ => trivial
  | e :: rest => by
      rw [listVisits, evalArgs]
      exact .bind (eval_follows _ e) fun _ =>
        .bindQuiet (evalArgs_follows _ rest) fun _ => .pure fun _ => trivial

end

end Expressions

/-! ### Statements -/

section Statements

variable {pre : Prop}

/-- What a statement returns is within the budget, if it returns. -/
def Flow.Fits : Flow → Prop
  | .next => True
  | .returned result => result.Fits

/-- Finding a place. -/
theorem placePath_follows (pre : Prop) :
    ∀ target : Expr, Follows pre (placeVisits target) (placePath target) fun _ => True
  | .var name => by
      rw [placeVisits, placePath]
      exact .pure fun _ => trivial
  | .member base name => by
      rw [placeVisits, placePath]
      exact .bindQuiet (placePath_follows _ base) fun _ => .pure fun _ => trivial
  | .index base index => by
      rw [placeVisits, placePath]
      exact .bind (placePath_follows _ base) fun _ =>
        .bindQuiet (eval_follows _ index) fun _ => .pure fun _ => trivial
  | .literal _ | .array _ | .object _ | .call _ _ | .unary _ _ | .binary _ _ _ | .cond _ _ _ =>
      .throw _

/-- Assigning what is within the budget to a place. -/
theorem assign_follows (target : Expr) {held : Operand} (hheld : pre → held.Fits) :
    Follows pre (placeVisits target) (assign target held) fun _ => True := by
  rw [assign]
  refine .bindQuiet (placePath_follows _ target) fun place => ?_
  obtain ⟨root, path⟩ := place
  dsimp only
  split
  · exact assignVariable_follows fun hpre => hheld hpre.1
  · exact assignBelow_follows path _

/-- What an assignment stores is within the budget. -/
theorem assigned_follows (target : Expr) (op : AssignOp) {right : Operand}
    (hright : pre → right.Fits) :
    Follows pre (assignedVisits target op) (assigned target op right) Operand.Fits := by
  cases op with
  | set => exact .pure hright
  | add =>
      exact .bindQuiet (eval_follows _ target) fun _ => checked_follows _
  | sub =>
      exact .bindQuiet (eval_follows _ target) fun _ =>
        .pure fun _ => Operand.fits_of_size (Value.size_ofFloat _)

/-- An optional expression. -/
theorem evalOption_follows (e : Option Expr) :
    Follows pre (optionVisits e) (evalOption e) Operand.Fits := by
  cases e with
  | none => exact .pure fun _ => one_le_maxValueSize
  | some e => exact eval_follows _ e

/-- Noting a value that is within the budget. -/
theorem complete_follows {value : Operand} (hvalue : pre → value.Fits) :
    Follows pre .none (complete value) fun _ => True :=
  .quiet (fun _ => rfl) fun hpre s hs _ t ht => by
    obtain ⟨-, rfl⟩ := Prod.mk.inj ht
    exact ⟨⟨hs.outer, hs.inner, hvalue hpre⟩, trivial⟩

mutual

/-- A statement takes a step for each visit, and stays within the budget as long as what is not
checked is within it. -/
theorem exec_follows (pre : Prop) :
    ∀ stmt : Stmt, Follows pre (stmtVisits stmt) (exec stmt) Flow.Fits
  | .empty => by
      rw [stmtVisits, exec]
      exact .runs (.pure fun _ => trivial)
  | .expr e => by
      rw [stmtVisits, exec]
      exact .runs (.bindQuiet (eval_follows _ e) fun _ =>
        .bindQuiet (complete_follows And.right) fun _ => .pure fun _ => trivial)
  | .decl kind name init => by
      rw [stmtVisits, exec]
      exact .runs (.bindQuiet (evalOption_follows init) fun _ =>
        .bindQuiet (declare_follows kind And.right) fun _ => .pure fun _ => trivial)
  | .assign target op value => by
      rw [stmtVisits, exec]
      exact .runs (.bind (eval_follows _ value) fun _ =>
        .bind (assigned_follows target op And.right) fun _ =>
        .bindQuiet (assign_follows target And.right) fun _ => .pure fun _ => trivial)
  | .branch test yes none => by
      rw [stmtVisits, exec]
      refine .runs (.bind (eval_follows _ test) fun v => ?_)
      split
      · exact .inScope (exec_follows _ yes)
      · exact .pure fun _ => trivial
  | .branch test yes (some no) => by
      rw [stmtVisits, exec]
      refine .runs (.bind (eval_follows _ test) fun v => ?_)
      split
      · exact .inScope (exec_follows _ yes)
      · exact .inScope (exec_follows _ no)
  | .ret value => by
      rw [stmtVisits, exec]
      exact .runs (.bindQuiet (evalOption_follows value) fun _ => .pure And.right)
  | .block body => by
      rw [stmtVisits, exec]
      exact .runs (.inScope (execAll_follows _ body))

/-- So do statements in turn. -/
theorem execAll_follows (pre : Prop) :
    ∀ body : List Stmt, Follows pre (programVisits body) (execAll body) Flow.Fits
  | [] => by
      rw [programVisits, execAll]
      exact .pure fun _ => trivial
  | stmt :: rest => by
      rw [programVisits, execAll]
      refine .bind (exec_follows _ stmt) fun flow => ?_
      cases flow with
      | next => exact execAll_follows _ rest
      | returned result => exact .pure And.right

end

/-- A program takes a step for each visit, and its result is within the budget as long as what is
not checked is within it. -/
theorem runProgram_follows (body : List Stmt) :
    Follows True (programVisits body) (runProgram body) Operand.Fits := by
  rw [runProgram]
  refine .bindQuiet (execAll_follows _ body) fun flow => ?_
  cases flow with
  | returned result => exact .pure And.right
  | next =>
      exact .quiet (fun _ => rfl) fun _ s hs o t ht => by
        obtain ⟨ho, rfl⟩ := Prod.mk.inj ht
        obtain rfl := Except.ok.inj ho
        exact ⟨⟨hs.outer, hs.inner, one_le_maxValueSize⟩, hs.completion⟩

end Statements

/-! ### Runs -/

/-- A run takes one step for each of its visits: no visit is missing. -/
theorem steps_runProgram (body : List Stmt) (s : Session Console) :
    (runProgram body s).2.steps = s.steps + (programVisits body s).length :=
  (runProgram_follows body).steps s

/-- A literal gives itself. -/
theorem fits_literal {v : Value} (hv : v.size ≤ maxValueSize) (s : Session Console) :
    (Visit.expr (.literal v) s).Fits := fun o t ht => by
  rw [eval] at ht
  rcases Follows.tick_cases (.expr (.literal v)) .none (pure (Operand.value v)) s with
    ⟨e, hrun, -⟩ | ⟨hrun, -⟩
  · exact nomatch hrun.symm.trans ht
  · obtain rfl := Except.ok.inj (Prod.mk.inj (hrun.symm.trans ht)).1
    exact hv

/-! ### Texts -/

/-- A session with one variable. -/
def holding (v : Value) : Session Console := (Session.start {} none 10).bind "items" (.value v)

/-- What a session with one variable holds is within the budget if the value of the variable is. -/
theorem fits_holding {v : Value} (hv : v.size ≤ maxValueSize) : (holding v).Fits :=
  Session.Fits.bind ⟨nofun, nofun, one_le_maxValueSize⟩ hv

/-- Code that makes a text of a literal. -/
def textOf (v : Value) : List Stmt := [.ret (some (.call (.var "String") [.literal v]))]

/-- The visits of such code. -/
theorem programVisits_textOf (v : Value) :
    programVisits (textOf v) (holding v) =
      [.stmt (.ret (some (.call (.var "String") [.literal v]))) (holding v),
        .expr (.call (.var "String") [.literal v]) { holding v with steps := 1 },
        .expr (.var "String") { holding v with steps := 2 },
        .expr (.literal v) { holding v with steps := 3 }] := rfl

/-- The literal of such code is within the budget if the value is. -/
theorem literals_textOf {v : Value} (hv : v.size ≤ maxValueSize) :
    ∀ w t, .expr (.literal w) t ∈ programVisits (textOf v) (holding v) → w.size ≤ maxValueSize := by
  intro w t h
  rw [programVisits_textOf] at h
  simp only [List.mem_cons, reduceCtorEq, Visit.expr.injEq, Expr.literal.injEq, false_and,
    false_or, List.not_mem_nil, or_false] at h
  rw [h.1]
  exact hv

/-- What such code gives without a check is the text of the value. -/
theorem unchecked_textOf {v : Value} (htext : (Value.str v.toText).size ≤ maxValueSize) :
    ∀ visit ∈ programVisits (textOf v) (holding v), visit.IsUnchecked → visit.Fits := by
  have heval : eval (.call (.var "String") [.literal v]) { holding v with steps := 1 } =
      (.ok (.value (.str v.toText)), { holding v with steps := 4 }) := by
    simp only [eval, evalArgs]
    rfl
  have hcall : Visit.Fits (.expr (.call (.var "String") [.literal v])
      { holding v with steps := 1 }) := fun o t ht => by
    rw [heval] at ht
    obtain rfl := Except.ok.inj (Prod.mk.inj ht).1
    exact htext
  rw [programVisits_textOf]
  simp only [List.forall_mem_cons]
  exact ⟨False.elim, fun _ => hcall, (fun h => nomatch h), (fun h => nomatch h), nofun⟩

/-- The bytes of joined texts: those of the first text, and for each other one those of a separator
and its own. -/
theorem utf8ByteSize_intercalate (separator first : String) (rest : List String) :
    (separator.intercalate (first :: rest)).utf8ByteSize =
      first.utf8ByteSize + (rest.map fun t => separator.utf8ByteSize + t.utf8ByteSize).sum := by
  induction rest generalizing first with
  | nil => rw [String.intercalate_singleton]; rfl
  | cons next rest ih =>
      rw [String.intercalate_cons_cons, String.utf8ByteSize_append, String.utf8ByteSize_append, ih,
        List.map_cons, List.sum_cons]
      omega

/-- Lists of the same value many times, as texts. -/
theorem itemTexts_replicate (n : Nat) (v : Value) :
    Value.itemTexts (List.replicate n v) = List.replicate n v.toText := by
  induction n with
  | zero => rfl
  | succ n ih => rw [List.replicate_succ, Value.itemTexts, ih, List.replicate_succ]

/-- A list of `false` has a size of one for each item, and a text of six bytes for each. -/
theorem size_text_falses (n : Nat) :
    (Value.str (Value.arr (List.replicate (n + 1) (.bool false))).toText).size = 6 * (n + 1) := by
  rw [Value.toText, itemTexts_replicate, List.replicate_succ, Value.size, utf8ByteSize_intercalate,
    List.map_replicate, List.sum_replicate_nat]
  have hfalse : (Value.bool false).toText.utf8ByteSize = 5 := by decide
  have hcomma : ",".utf8ByteSize = 1 := by decide
  rw [hfalse, hcomma]
  omega

/-! ### The budget of a run -/

/-- If the literals of the code and what the variables hold at first is within the budget, then what
the expressions of a run give, and with it the result of the run, is within the budget if and only
if the texts and ids that are given without a check are. -/
theorem values_fit_iff (body : List Stmt) (s : Session Console) (hs : s.Fits)
    (hliterals : ∀ v t, .expr (.literal v) t ∈ programVisits body s → v.size ≤ maxValueSize) :
    ((∀ visit ∈ programVisits body s, visit.Fits) ∧
      ∀ o t, runProgram body s = (.ok o, t) → o.toValue.size ≤ maxValueSize) ↔
    ∀ visit ∈ programVisits body s, visit.IsUnchecked → visit.Fits := by
  constructor
  · exact fun h visit hvisit _ => h.1 visit hvisit
  · intro hunchecked
    have hgiven : ∀ visit ∈ programVisits body s,
        visit.IsLiteral ∨ visit.IsUnchecked → visit.Fits := by
      rintro visit hvisit (hliteral | h)
      · obtain ⟨e, t⟩ | _ := visit
        · cases e with
          | literal v => exact fits_literal (hliterals v t hvisit) t
          | _ => exact hliteral.elim
        · exact trivial
      · exact hunchecked visit hvisit h
    have hfits := (runProgram_follows body).fits trivial s hs hgiven
    exact ⟨hfits.1, fun o t ht => (hfits.2 o t ht).2⟩

/-- The text that a run makes of a truth value is within the budget, and so is all else there. -/
theorem truth_text_fits :
    (holding (.bool true)).Fits ∧
    (∀ w t, .expr (.literal w) t ∈ programVisits (textOf (.bool true)) (holding (.bool true)) →
      w.size ≤ maxValueSize) ∧
    (∀ visit ∈ programVisits (textOf (.bool true)) (holding (.bool true)), visit.Fits) ∧
    ∀ o t, runProgram (textOf (.bool true)) (holding (.bool true)) = (.ok o, t) →
      o.toValue.size ≤ maxValueSize :=
  ⟨fits_holding one_le_maxValueSize, literals_textOf one_le_maxValueSize,
    (values_fit_iff (textOf (.bool true)) (holding (.bool true)) (fits_holding one_le_maxValueSize)
      (literals_textOf one_le_maxValueSize)).mpr (unchecked_textOf (by decide))⟩

/-- A list within the budget has a text beyond it, and nothing stops a run from making that text, be
it with `String` or with `toString`. -/
theorem text_exceeds_budget :
    let s := holding (.arr (List.replicate 50000 (.bool false)))
    let convert := [.ret (some (.call (.var "String") [.var "items"]))]
    let method := [.ret (some (.call (.member (.var "items") "toString") []))]
    s.Fits ∧ (∀ v t, .expr (.literal v) t ∉ programVisits convert s ++ programVisits method s) ∧
      (∃ o t, runProgram convert s = (.ok o, t) ∧ maxValueSize < o.toValue.size) ∧
      ∃ o t, runProgram method s = (.ok o, t) ∧ maxValueSize < o.toValue.size := by
  intro s convert method
  have hlist : (Value.arr (List.replicate 50000 (.bool false))).size ≤ maxValueSize := by
    rw [Value.size, Value.itemsSize_replicate]
    decide
  have htext : maxValueSize <
      (Value.str (Value.arr (List.replicate 50000 (.bool false))).toText).size := by
    rw [size_text_falses 49999]
    decide
  have hvisits (v : Value) : programVisits convert (holding v) ++ programVisits method (holding v) =
      [.stmt (.ret (some (.call (.var "String") [.var "items"]))) (holding v),
        .expr (.call (.var "String") [.var "items"]) { holding v with steps := 1 },
        .expr (.var "String") { holding v with steps := 2 },
        .expr (.var "items") { holding v with steps := 3 },
        .stmt (.ret (some (.call (.member (.var "items") "toString") []))) (holding v),
        .expr (.call (.member (.var "items") "toString") []) { holding v with steps := 1 },
        .expr (.var "items") { holding v with steps := 2 }] := rfl
  have hconvert (v : Value) : runProgram convert (holding v) =
      (.ok (.value (.str v.toText)), { holding v with steps := 4 }) := rfl
  have hmethod (v : Value) : runProgram method (holding v) =
      (.ok (.value (.str v.toText)), { holding v with steps := 3 }) := rfl
  refine ⟨fits_holding hlist, fun v t h => ?_, ⟨_, _, hconvert _, htext⟩, ⟨_, _, hmethod _, htext⟩⟩
  rw [hvisits] at h
  simp only [List.mem_cons, reduceCtorEq, Visit.expr.injEq, false_and, or_self,
    List.not_mem_nil] at h

end WidgetFlow.Script
