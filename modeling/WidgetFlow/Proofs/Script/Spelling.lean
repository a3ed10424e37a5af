import WidgetFlow.Script.Handler
import WidgetFlow.Proofs.Script.Budget
import WidgetFlow.Proofs.Script.Disjoint
import WidgetFlow.Proofs.Script.Extension
import WidgetFlow.Proofs.Script.Shape
import WidgetFlow.Proofs.Script.Walk

/-!
# Spellings of an expression

A handler that gives the value of an expression can be written in five ways: the expression alone,
its `return`, a function with an arrow, a function that returns it, and a `return` of a function
with an arrow. All of them compile, in three different shapes, and run in the same way.

An expression that starts with a brace is an exception: alone it is read as a block.

## Main results

* `map_compile_spellings`: all spellings of an expression compile.
* `run_spelled`: they run in the same way.
* `spellings_agree`: **the spellings of an expression agree**.
-/

namespace WidgetFlow.Script

open WidgetFlow.Parser

variable {cs mid : List Char} {e : Expr} {E : String}

/-! ### Statements -/

/-- Only an expression can start a statement where one is read that starts with no brace. -/
theorem leadsExpression_of_expression (hs : Text.skipBlanks cs = cs)
    (h : expression cs = some (e, mid)) (hbrace : mark '\x7b' cs = none) :
    LeadsExpression cs := by
  refine ⟨hs, fun word hword => ?_, hbrace, ?_⟩
  · have hall : ∀ word ∈ statementWords,
        isAnyName word = true ∧ word ∈ reservedWords ∧ word ∉ literalWords := by decide
    obtain ⟨hany, hreserved, hother⟩ := hall word hword
    rw [Option.eq_none_iff_forall_ne_some]
    rintro ⟨u, rest⟩ hread
    obtain ⟨tail, htext, -, htail⟩ := keyword_eq_some hread
    rw [hs] at htext
    rw [htext, expression_reserved hany hreserved hother htail] at h
    cases h
  · rw [Option.eq_none_iff_forall_ne_some]
    rintro ⟨c, rest⟩ hread
    obtain ⟨-, tail, htext, -⟩ := mark_eq_some.mp hread
    rw [hs] at htext
    have hnone : expression (';' :: tail) = none :=
      expressionTo_mark (by decide) (by decide) _ _
    rw [htext, hnone] at h
    cases h

/-- A text is an expression with blanks around it, and starts with no brace. -/
structure IsExpression (cs : List Char) (e : Expr) : Prop where
  read : ∃ mid, expression (Text.skipBlanks cs) = some (e, mid) ∧ Text.skipBlanks mid = []
  notBrace : mark '\x7b' (Text.skipBlanks cs) = none

/-- Nothing but blanks ends a statement. -/
theorem semicolon_of_blank (h : Text.skipBlanks mid = []) : semicolon mid = some ((), mid) := by
  rw [semicolon, map, opt, mark, spaced, h]
  rfl

/-- A closing brace ends a statement. -/
theorem semicolon_of_brace (h : Text.skipBlanks mid = ['\x7d']) :
    semicolon mid = some ((), mid) := by
  rw [semicolon, map, opt, mark, spaced, h]
  rfl

/-- A statement is a whole list of statements. -/
theorem program_of_statement {stmt : Stmt} (hcs : Text.skipBlanks cs ≠ [])
    (h : statement (Text.skipBlanks cs) = some (stmt, [])) : program cs = some ([stmt], []) := by
  obtain ⟨c, tail, heq⟩ := List.exists_cons_of_ne_nil hcs
  rw [heq] at h
  refine spaced_eq_some.mpr ⟨[], ?_, rfl⟩
  rw [heq]
  exact many_of_one h rfl

/-- A `return` of an expression. -/
theorem statement_return_expression (h : expression (Text.skipBlanks cs) = some (e, mid))
    (hend : semicolon mid = some ((), mid)) :
    statement ("return ".toList ++ cs) = some (.ret (some e), Text.skipBlanks mid) := by
  have hword : keyword "return" ("return ".toList ++ cs) = some ((), Text.skipBlanks cs) := rfl
  have hopt : opt expression (Text.skipBlanks cs) = some (some e, mid) := by rw [opt, h]
  exact statement_return rfl hword (map_of_some (skipRight_eq_some.mpr
    ⟨mid, (), skipLeft_eq_some.mpr ⟨(), _, hword, hopt⟩, hend⟩))

/-- A `return` of an expression is a list of one statement. -/
theorem program_return (h : expression (Text.skipBlanks cs) = some (e, mid))
    (hmid : Text.skipBlanks mid = []) :
    program ("return ".toList ++ cs) = some ([.ret (some e)], []) := by
  refine program_of_statement (List.cons_ne_nil _ _) ?_
  exact (statement_return_expression h (semicolon_of_blank hmid)).trans (by rw [hmid])

namespace IsExpression

variable (h : IsExpression cs e)
include h

/-- There is something to read. -/
theorem ne_nil : Text.skipBlanks cs ≠ [] := fun hnil => by
  obtain ⟨mid, hread, -⟩ := h.read
  rw [hnil] at hread
  cases hread

/-- An expression is a list of one statement. -/
theorem program_bare : program cs = some ([.expr e], []) := by
  obtain ⟨mid, hread, hmid⟩ := h.read
  have hlead := leadsExpression_of_expression (Text.skipBlanks_skipBlanks cs) hread h.notBrace
  have hop : assignOp mid = none := by
    rw [assignOp, spaced, hmid]
    rfl
  refine program_of_statement h.ne_nil ?_
  rw [statement_eq, hlead.statementOver_of_expression hread hop (semicolon_of_blank hmid), hmid]

/-- A function with an arrow and an expression behind it. -/
theorem functionLiteral_arrow : functionLiteral ("(event, accessor) => ".toList ++ cs) =
    some (⟨["event", "accessor"], [.ret (some e)]⟩, []) := by
  obtain ⟨mid, hread, hmid⟩ := h.read
  have hbody : body statement (Text.skipBlanks cs) = none :=
    andThen_of_none (andThen_of_none h.notBrace)
  have harrow : arrowFunction ("(event, accessor) => ".toList ++ cs) =
      some (⟨["event", "accessor"], [.ret (some e)]⟩, mid) := by
    refine map_of_some (pair_eq_some.mpr ⟨Text.skipBlanks cs, rfl, ?_⟩)
    rw [orElse_of_none hbody]
    exact map_of_some hread
  have hspaced : spaced (orElse namedFunction arrowFunction)
      ("(event, accessor) => ".toList ++ cs) =
        some (⟨["event", "accessor"], [.ret (some e)]⟩, []) :=
    spaced_eq_some.mpr ⟨mid, (orElse_of_none rfl).trans harrow, hmid.symm⟩
  exact skipRight_eq_some.mpr ⟨[], (), hspaced, rfl⟩

/-- The end of a block stays behind an expression when the blanks in front are skipped. -/
theorem skipBlanks_append_brace :
    Text.skipBlanks (cs ++ [' ', '\x7d']) = Text.skipBlanks cs ++ [' ', '\x7d'] := by
  rw [Text.skipBlanks, List.dropWhile_append, if_neg]
  · rfl
  · rw [List.isEmpty_iff]
    exact h.ne_nil

/-- A block that returns an expression. -/
theorem body_return : body statement ("\x7b return ".toList ++ (cs ++ [' ', '\x7d'])) =
    some ([.ret (some e)], []) := by
  obtain ⟨mid, hread, hmid⟩ := h.read
  obtain ⟨rest, hinner, hrest⟩ := expression_append hread hmid
  rw [← h.skipBlanks_append_brace] at hinner
  have hstatement := statement_return_expression hinner (semicolon_of_brace hrest)
  rw [hrest] at hstatement
  have hmany : many statement (Text.skipBlanks (" return ".toList ++ (cs ++ [' ', '\x7d']))) =
      some ([.ret (some e)], ['\x7d']) := by
    rw [show Text.skipBlanks (" return ".toList ++ (cs ++ [' ', '\x7d'])) =
      'r' :: ("eturn ".toList ++ (cs ++ [' ', '\x7d'])) from rfl]
    exact many_of_one hstatement rfl
  rw [body, show "\x7b return ".toList = '\x7b' :: " return ".toList from rfl, List.cons_append]
  exact between_marks (by decide) (by decide) hmany

/-- A function with the word `function` that returns an expression. -/
theorem functionLiteral_named :
    functionLiteral ("function (event, accessor) \x7b return ".toList ++ (cs ++ [' ', '\x7d'])) =
      some (⟨["event", "accessor"], [.ret (some e)]⟩, []) := by
  have hbody := h.body_return
  generalize cs ++ [' ', '\x7d'] = text at hbody ⊢
  have hword : keyword "function" ("function (event, accessor) \x7b return ".toList ++ text) =
      some ((), "(event, accessor) \x7b return ".toList ++ text) := rfl
  have hname : opt (spaced name) ("(event, accessor) \x7b return ".toList ++ text) =
      some (none, "(event, accessor) \x7b return ".toList ++ text) := rfl
  have hparams : parameters ("(event, accessor) \x7b return ".toList ++ text) =
      some (["event", "accessor"], "\x7b return ".toList ++ text) := rfl
  have hhead := skipLeft_eq_some.mpr ⟨(), _, hword, skipLeft_eq_some.mpr ⟨none, _, hname, hparams⟩⟩
  have hnamed : namedFunction ("function (event, accessor) \x7b return ".toList ++ text) =
      some (⟨["event", "accessor"], [.ret (some e)]⟩, []) :=
    map_of_some (pair_eq_some.mpr ⟨_, hhead, hbody⟩)
  have hspaced : spaced (orElse namedFunction arrowFunction)
      ("function (event, accessor) \x7b return ".toList ++ text) =
        some (⟨["event", "accessor"], [.ret (some e)]⟩, []) :=
    spaced_eq_some.mpr ⟨[], orElse_of_some hnamed, rfl⟩
  exact skipRight_eq_some.mpr ⟨[], (), hspaced, rfl⟩

/-- A `return` of a function with an arrow and an expression behind it. -/
theorem return_arrow : spaced (skipLeft (keyword "return") functionLiteral)
    ("return (event, accessor) => ".toList ++ cs) =
      some (⟨["event", "accessor"], [.ret (some e)]⟩, []) :=
  spaced_eq_some.mpr ⟨[], skipLeft_eq_some.mpr ⟨(), "(event, accessor) => ".toList ++ cs, rfl,
    h.functionLiteral_arrow⟩, rfl⟩

end IsExpression

/-! ### Compiling -/

/-- The five ways to write a handler that gives the value of an expression. -/
def spellings (code : String) : List String :=
  [code, "return " ++ code, "(event, accessor) => " ++ code,
    "function (event, accessor) \x7b return " ++ code ++ " \x7d",
    "return (event, accessor) => " ++ code]

/-- What they compile to. -/
def spelled (e : Expr) : List Handler :=
  [⟨.block, [], [.expr e]⟩, ⟨.block, [], [.ret (some e)]⟩,
    ⟨.function, ["event", "accessor"], [.ret (some e)]⟩,
    ⟨.function, ["event", "accessor"], [.ret (some e)]⟩,
    ⟨.wrapped, ["event", "accessor"], [.ret (some e)]⟩]

/-- Code compiles in the shape that recognizes and reads it. -/
theorem compile_of_shape {code : String} (shape : Shape) {handler : Handler}
    (hrecognizes : shape.recognizes code = true)
    (hcompile : shape.compile? code = some handler) : compile code = .ok handler := by
  have hall : shape ∈ allShapes := by cases shape <;> decide
  exact compileWith_eq_ok_iff.mpr ⟨shape, hall, hrecognizes, hcompile⟩

section Spelled

variable (hclean : stripComments E = E) (hparse : parseExpression E = some e)
  (hbrace : ∀ c ∈ (Text.skipBlanks E.toList).head?, c ≠ '\x7b')

include hclean in
/-- Code without comments is read as it stands. -/
theorem blankComments_eq : blankComments E.toList = E.toList := by
  have h := congrArg String.toList hclean
  rwa [stripComments, String.toList_ofList] at h

include hclean hparse in
/-- A text that parses as an expression is an expression with blanks around it. -/
theorem isExpression_of_parse
    (hbrace : ∀ c ∈ (Text.skipBlanks E.toList).head?, c ≠ '\x7b') : IsExpression E.toList e := by
  rw [parseExpression, readWhole, blankComments_eq hclean] at hparse
  obtain ⟨mid, hread, hmid⟩ := spaced_eq_some.mp (run_eq_some.mp hparse)
  refine ⟨⟨mid, hread, hmid.symm⟩, ?_⟩
  rw [mark, spaced, Text.skipBlanks_skipBlanks]
  cases hcs : Text.skipBlanks E.toList with
  | nil => rfl
  | cons c cs =>
      rw [hcs] at hbrace
      have hne : c ≠ '\x7b' := hbrace c rfl
      rw [char, satisfy, if_neg (by simpa using hne)]

include hclean in
/-- Front matter without comments and strings leaves code without comments. -/
theorem blankComments_append {front : String} (hfront : front.toList.all isPlain = true) :
    blankComments (front ++ E).toList = front.toList ++ E.toList := by
  rw [String.toList_append, blankComments, blankFrom_code_append (List.all_eq_true.mp hfront)]
  exact congrArg _ (blankComments_eq hclean)

include hclean in
/-- A block around an expression leaves code without comments. -/
theorem IsExpression.blankComments_named (h : IsExpression E.toList e) :
    blankComments ("function (event, accessor) \x7b return " ++ E ++ " \x7d").toList =
      "function (event, accessor) \x7b return ".toList ++ (E.toList ++ [' ', '\x7d']) := by
  obtain ⟨mid, hread, hmid⟩ := h.read
  have hafter : (Place.code 0).after E.toList = .code 0 := by
    rw [← after_skipBlanks, after_of_expression hread, ← after_skipBlanks, hmid]
    rfl
  have hend : ∀ c ∈ " \x7d".toList.head?, c ≠ '/' ∧ c ≠ '*' := fun c hc => by
    obtain rfl : ' ' = c := Option.some.inj hc
    decide
  rw [String.toList_append, String.toList_append, List.append_assoc, blankComments,
    blankFrom_code_append (List.all_eq_true.mp (by decide)),
    blankFrom_append (.code 0) (blankComments_eq hclean) hafter hend]
  rfl

include hclean hparse hbrace in
/-- All spellings of an expression compile. -/
theorem map_compile_spellings : (spellings E).map compile = (spelled e).map .ok := by
  have h := isExpression_of_parse hclean hparse hbrace
  have hbare : compile E = .ok ⟨.block, [], [.expr e]⟩ := by
    refine compile_of_shape .block rfl ?_
    rw [Shape.compile?, parseProgram, readWhole, blankComments_eq hclean,
      run_eq_some.mpr h.program_bare]
    rfl
  have hreturn : compile ("return " ++ E) = .ok ⟨.block, [], [.ret (some e)]⟩ := by
    refine compile_of_shape .block rfl ?_
    obtain ⟨mid, hread, hmid⟩ := h.read
    rw [Shape.compile?, parseProgram, readWhole, blankComments_append hclean (by decide),
      run_eq_some.mpr (program_return hread hmid)]
    rfl
  have harrow : compile ("(event, accessor) => " ++ E) =
      .ok ⟨.function, ["event", "accessor"], [.ret (some e)]⟩ := by
    refine compile_of_shape .function ?_ ?_
    · rw [Shape.recognizes, String.toList_append]
      rfl
    · rw [Shape.compile?, parseFunction, readWhole, blankComments_append hclean (by decide),
        run_eq_some.mpr h.functionLiteral_arrow]
      rfl
  have hnamed : compile ("function (event, accessor) \x7b return " ++ E ++ " \x7d") =
      .ok ⟨.function, ["event", "accessor"], [.ret (some e)]⟩ := by
    refine compile_of_shape .function ?_ ?_
    · rw [Shape.recognizes, String.toList_append, String.toList_append, List.append_assoc]
      rfl
    · rw [Shape.compile?, parseFunction, readWhole, h.blankComments_named hclean,
        run_eq_some.mpr h.functionLiteral_named]
      rfl
  have hwrapped : compile ("return (event, accessor) => " ++ E) =
      .ok ⟨.wrapped, ["event", "accessor"], [.ret (some e)]⟩ := by
    refine compile_of_shape .wrapped ?_ ?_
    · rw [Shape.recognizes, String.toList_append]
      rfl
    · rw [Shape.compile?, parseWrapped, readWhole, blankComments_append hclean (by decide),
        run_eq_some.mpr h.return_arrow]
      rfl
  simp only [spellings, spelled, List.map_cons, List.map_nil, hbare, hreturn, harrow, hnamed,
    hwrapped]

end Spelled

/-! ### Running -/

/-- A program that returns an expression takes a step and evaluates the expression. -/
theorem runProgram_ret {σ : Type} [Host σ] (e : Expr) :
    runProgram [.ret (some e)] = (do Run.tick; eval e : Run σ Operand) := by
  simp only [runProgram, execAll, exec, evalOption, bind_assoc, pure_bind, bind_pure]

/-- A program that is one expression gives its value, and forgets it. -/
theorem runProgram_expr {σ : Type} [Host σ] (e : Expr) (s : Session σ) :
    runProgram [.expr e] s = match runProgram [.ret (some e)] s with
      | (.ok v, t) => (.ok v, { t with completion := .null })
      | (.error x, t) => (.error x, t) := by
  have hexpr : runProgram [.expr e] = (do
      let v ← (do Run.tick; eval e : Run σ Operand)
      complete v
      let s ← get
      set { s with completion := Operand.null }
      return s.completion) := by
    simp only [runProgram, execAll, exec, bind_assoc, pure_bind]
  rw [hexpr, runProgram_ret, Run.bind_apply]
  generalize (do Run.tick; eval e : Run σ Operand) s = out
  obtain ⟨result, t⟩ := out
  cases result <;> rfl

/-- All spellings run in the same way. -/
theorem run_spelled {σ : Type} [Host σ] (call : Invocation) (host : σ) {h : Handler}
    (hh : h ∈ spelled e) :
    h.run call host = Handler.run ⟨.block, [], [.ret (some e)]⟩ call host := by
  simp only [spelled, List.mem_cons, List.not_mem_nil, or_false] at hh
  rcases hh with rfl | rfl | rfl | rfl | rfl
  · simp only [Handler.run]
    rw [show Handler.session ⟨.block, [], [.expr e]⟩ call host =
      Handler.session ⟨.block, [], [.ret (some e)]⟩ call host from rfl, runProgram_expr]
    generalize runProgram [.ret (some e)]
      (Handler.session ⟨.block, [], [.ret (some e)]⟩ call host) = out
    obtain ⟨result, t⟩ := out
    cases result with
    | error x => rfl
    | ok v => rfl
  · rfl
  · rfl
  · rfl
  · rfl

/-- **The spellings of an expression agree.** Take any code without comments that parses as an
expression and does not start with a brace behind its blanks. The code itself, its `return`, a
function with an arrow, a function that returns it and a `return` of a function with an arrow all
compile. On any host, with any event, any component called itself and any limit of steps, their runs
give the same result or fail with the same error, write the same components, and leave the same
host. -/
theorem spellings_agree (code : String) (hclean : stripComments code = code)
    (hparse : (parseExpression code).isSome = true)
    (hbrace : ∀ c ∈ (Text.skipBlanks code.toList).head?, c ≠ '\x7b') :
    ∃ handlers : List Handler, (spellings code).map compile = handlers.map .ok ∧
      ∀ h ∈ handlers, ∀ h' ∈ handlers, ∀ {σ : Type} [Host σ] (call : Invocation) (host : σ),
        h.run call host = h'.run call host := by
  obtain ⟨e, he⟩ := Option.isSome_iff_exists.mp hparse
  refine ⟨spelled e, map_compile_spellings hclean he hbrace, fun h hh h' hh' σ _ call host => ?_⟩
  rw [run_spelled call host hh, run_spelled call host hh']

/-- The spellings of a sum agree. -/
theorem spellings_agree_sum :
    stripComments "event.value + 1" = "event.value + 1" ∧
    (parseExpression "event.value + 1").isSome = true ∧
    (∀ c ∈ (Text.skipBlanks "event.value + 1".toList).head?, c ≠ '\x7b') ∧
    ∃ handlers : List Handler, (spellings "event.value + 1").map compile = handlers.map .ok ∧
      ∀ h ∈ handlers, ∀ h' ∈ handlers, ∀ (call : Invocation) (host : Console),
        h.run call host = h'.run call host := by
  have hclean : stripComments "event.value + 1" = "event.value + 1" := by decide +kernel
  have hparse : (parseExpression "event.value + 1").isSome = true := by decide +kernel
  have hbrace : ∀ c ∈ (Text.skipBlanks "event.value + 1".toList).head?, c ≠ '\x7b' := fun c hc => by
    obtain rfl : 'e' = c := Option.some.inj hc
    decide
  obtain ⟨handlers, hcompile, hagree⟩ := spellings_agree "event.value + 1" hclean hparse hbrace
  exact ⟨hclean, hparse, hbrace, handlers, hcompile, fun h hh h' hh' => hagree h hh h' hh'⟩

/-- A record behind a blank does not start with a brace. Alone it is a block without statements and
gives null, and its `return` gives the record. -/
theorem spellings_differ :
    stripComments " \x7b\x7d" = " \x7b\x7d" ∧ (parseExpression " \x7b\x7d").isSome = true ∧
    " \x7b\x7d".toList.head? ≠ some '\x7b' ∧
    ∃ h h', compile " \x7b\x7d" = .ok h ∧ compile ("return " ++ " \x7b\x7d") = .ok h' ∧
      (h.run ⟨.null, none, 10⟩ ({} : Console)).1 = .ok ⟨.null, []⟩ ∧
      (h'.run ⟨.null, none, 10⟩ ({} : Console)).1 = .ok ⟨.obj [], []⟩ := by
  have htext : blankComments " \x7b\x7d".toList = [' ', '\x7b', '\x7d'] := by decide
  have htext' : blankComments ("return " ++ " \x7b\x7d").toList =
      "return ".toList ++ [' ', '\x7b', '\x7d'] := by decide
  have hblock : parseProgram " \x7b\x7d" = some [.block []] := by
    rw [parseProgram, readWhole, htext]
    exact run_eq_some.mpr rfl
  have hreturn : parseProgram ("return " ++ " \x7b\x7d") = some [.ret (some (.object []))] := by
    have hrecord : expression ['\x7b', '\x7d'] = some (.object [], []) := rfl
    rw [parseProgram, readWhole, htext']
    exact run_eq_some.mpr (program_return hrecord rfl)
  refine ⟨by decide +kernel, by decide +kernel, by decide, ⟨.block, [], [.block []]⟩,
    ⟨.block, [], [.ret (some (.object []))]⟩, ?_, ?_, ?_, ?_⟩
  · exact compile_of_shape .block rfl (by rw [Shape.compile?, hblock]; rfl)
  · exact compile_of_shape .block rfl (by rw [Shape.compile?, hreturn]; rfl)
  · rfl
  · have hbudget : checked (.obj []) = .ok (.obj []) := checked_eq_ok.mpr ⟨rfl, by decide⟩
    have heval : eval (.object []) = (do
        Run.tick
        return .value (← Run.lift (checked (.obj []))) : Run Console Operand) := by
      simp only [eval, evalEntries, pure_bind]
      rfl
    rw [Handler.run, runProgram_ret, heval, hbudget]
    rfl

end WidgetFlow.Script
