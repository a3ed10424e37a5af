import WidgetFlow.Proofs.Script.Expression

/-!
# The shapes of handler code are disjoint

No code parses in two shapes, so it does not matter in which order shapes are tried. Where a
function literal starts, a list of statements gets stuck: behind the word `function` and at
parameters that are no expression nothing is read at all, and where one name, perhaps in
parentheses, is read as an expression, the arrow behind it starts neither an assignment nor another
statement (`Stuck`). A `return` in front of the literal changes only that the expression is returned.

## Main results

* `stuck_of_functionLiteral`: statements get stuck where a function literal starts.
* `Stuck.many_statement`: then a list of statements leaves something behind.
* `shapes_disjoint`: at most one shape parses some code, and compiling gives the same handler
  whatever the order in which the shapes were registered.
-/

namespace WidgetFlow.Script

open WidgetFlow.Parser

variable {c : Char} {cs mid rest tail : List Char} {e : Expr} {f : FunctionLit} {s : String}

/-! ### Statements that can only start with an expression -/

/-- Where neither a brace nor one of four words stands, there is neither a block nor a declaration
nor a conditional statement. -/
theorem statementOver_of_words {stmt : Parser Stmt} (hs : Text.skipBlanks cs = cs)
    (hbrace : mark '\x7b' cs = none)
    (hwords : ∀ word ∈ ["let", "const", "var", "if"], keyword word cs = none) :
    statementOver stmt cs = spaced (choice [returnStmt, assignment,
      map .expr (skipRight expression semicolon), map (fun _ => .empty) (mark ';')]) cs := by
  have hbody : body stmt cs = none := by
    rw [body, between, skipRight, andThen_of_none]
    rw [skipLeft, andThen_of_none hbrace]
  have hkind : declKind cs = none := by
    refine choice_of_none ?_
    simp only [List.map_cons, List.map_nil, List.forall_mem_cons, List.not_mem_nil,
      false_imp_iff, implies_true, and_true]
    refine ⟨?_, ?_, ?_⟩
    · exact map_of_none (hwords _ (by decide))
    · exact map_of_none (hwords _ (by decide))
    · exact map_of_none (hwords _ (by decide))
  have hdeclaration : declaration cs = none := andThen_of_none hkind
  have hbranch : branchStmt stmt cs = none :=
    andThen_of_none (andThen_of_none (hwords "if" (by decide)))
  rw [statementOver, spaced, spaced, hs]
  rw [choice, orElse_of_none (map_of_none hbody)]
  rw [choice, orElse_of_none hdeclaration]
  rw [choice, orElse_of_none hbranch]

/-- The words that statements start with. -/
def statementWords : List String := ["let", "const", "var", "if", "return"]

/-- Only an expression can start a statement here. -/
structure LeadsExpression (cs : List Char) : Prop where
  skip : Text.skipBlanks cs = cs
  word : ∀ word ∈ statementWords, keyword word cs = none
  notBrace : mark '\x7b' cs = none
  notSemicolon : mark ';' cs = none

namespace LeadsExpression

/-- At a mark other than a brace and a semicolon only an expression can start a statement. -/
theorem of_mark (hmark : isMark c = true) (hbrace : c ≠ '\x7b') (hsemicolon : c ≠ ';') :
    LeadsExpression (c :: cs) := by
  simp only [isMark, Bool.and_eq_true, Bool.not_eq_true', bne_iff_ne] at hmark
  obtain ⟨⟨⟨⟨hblank, hname⟩, -⟩, -⟩, -⟩ := hmark
  exact ⟨Text.skipBlanks_cons hblank, fun _ _ => keyword_mark hname hblank cs,
    mark_of_ne hblank hbrace cs, mark_of_ne hblank hsemicolon cs⟩

/-- At a name that is none of the words only an expression can start a statement. -/
theorem of_name (hs : isAnyName s = true) (hother : s ∉ statementWords)
    (hrest : ∀ d ∈ rest.head?, isNamePart d = false) : LeadsExpression (s.toList ++ rest) := by
  have hskip := skipBlanks_name hs rest
  have hword : ∀ word ∈ statementWords, keyword word (s.toList ++ rest) = none := by
    intro word hword
    rw [keyword_name hs hrest, if_neg]
    rintro rfl
    exact hother hword
  obtain ⟨c, w, heq, hc, -⟩ := exists_of_isAnyName hs
  have hblank := not_blank_of_isNameStart hc
  have hmarks : ['\x7b', ';'].any isNameStart = false := by decide
  have hne : ∀ d ∈ ['\x7b', ';'], c ≠ d := by
    rintro d hd rfl
    exact List.any_eq_false.mp hmarks c hd hc
  refine ⟨hskip, hword, ?_, ?_⟩
  · rw [heq]
    exact mark_of_ne hblank (hne _ (by decide)) _
  · rw [heq]
    exact mark_of_ne hblank (hne _ (by decide)) _

variable {stmt : Parser Stmt} (h : LeadsExpression cs)

include h

/-- Where only an expression can start a statement, there is an assignment, an expression or
nothing. -/
theorem statementOver_eq : statementOver stmt cs =
    spaced (choice [assignment, map .expr (skipRight expression semicolon)]) cs := by
  have hreturn : returnStmt cs = none :=
    map_of_none (andThen_of_none (andThen_of_none (h.word "return" (by decide))))
  have hempty : ∀ {a : Stmt}, map (fun _ => a) (mark ';') cs = none :=
    map_of_none h.notSemicolon
  have hwords : ∀ word ∈ ["let", "const", "var", "if"], word ∈ statementWords := by decide
  rw [statementOver_of_words h.skip h.notBrace fun word hw => h.word word (hwords word hw)]
  rw [spaced, spaced, h.skip]
  rw [choice, orElse_of_none hreturn]
  simp only [choice, orElse, hempty, fail]

/-- Without an expression there is no statement. -/
theorem statementOver_of_none (hexpr : expression cs = none) : statementOver stmt cs = none := by
  have hassignment : assignment cs = none := by
    rw [assignment, andThen_of_none]
    rw [filterMap, hexpr]
  have hread : skipRight expression semicolon cs = none := andThen_of_none hexpr
  rw [h.statementOver_eq, spaced, h.skip]
  rw [choice, orElse_of_none hassignment]
  rw [choice, orElse_of_none (map_of_none hread)]
  rfl

/-- An expression with neither an assignment nor a semicolon behind it is a statement. -/
theorem statementOver_of_expression (hexpr : expression cs = some (e, mid))
    (hop : assignOp mid = none) (hsemicolon : semicolon mid = some ((), mid)) :
    statementOver stmt cs = some (.expr e, Text.skipBlanks mid) := by
  have hassignment : assignment cs = none := by
    have htarget : filterMap (fun e => if e.isPlace then some e else none) expression cs =
        if e.isPlace then some (e, mid) else none := by
      rw [filterMap, hexpr]
      cases hplace : e.isPlace <;> simp [hplace]
    rw [assignment, andThen, htarget]
    cases e.isPlace
    · rfl
    · exact andThen_of_none hop
  have hread : map Stmt.expr (skipRight expression semicolon) cs = some (.expr e, mid) :=
    map_of_some (skipRight_eq_some.mpr ⟨_, (), hexpr, hsemicolon⟩)
  rw [h.statementOver_eq, spaced, h.skip]
  rw [choice, orElse_of_none hassignment]
  rw [choice, orElse_of_some hread]

/-- An expression with an arrow behind it is a statement up to the arrow. -/
theorem statementOver_of_arrow (hexpr : expression cs = some (e, '=' :: '>' :: tail)) :
    statementOver stmt cs = some (.expr e, '=' :: '>' :: tail) :=
  h.statementOver_of_expression hexpr rfl rfl

end LeadsExpression

/-! ### Where a list of statements gets stuck -/

/-- Only an expression can start a statement, and there is none, or an arrow follows it. -/
def Stuck (cs : List Char) : Prop :=
  LeadsExpression cs ∧ cs ≠ [] ∧
    (expression cs = none ∨ ∃ e tail, expression cs = some (e, '=' :: '>' :: tail))

/-- A statement nests at most as deep as there are characters. -/
theorem statement_eq (cs : List Char) : statement cs = statementOver (statementTo cs.length) cs :=
  rfl

/-- No statement starts at an arrow. -/
theorem statement_arrow (tail : List Char) : statement ('=' :: '>' :: tail) = none := by
  have hlead : LeadsExpression ('=' :: '>' :: tail) :=
    .of_mark (by decide) (by decide) (by decide)
  have hexpr : expression ('=' :: '>' :: tail) = none :=
    expressionTo_mark (by decide) (by decide) _ _
  rw [statement_eq, hlead.statementOver_of_none hexpr]

/-- Something other than blanks is left. -/
def LeavesRest {α : Type} (r : Option (α × List Char)) : Prop :=
  ∃ a c tail, r = some (a, c :: tail) ∧ Text.isBlank c = false

/-- A repetition that gets no further than its first result. -/
theorem many_of_one {α : Type} {p : Parser α} {a : α} (h : p (c :: cs) = some (a, rest))
    (hrest : p rest = none) : many p (c :: cs) = some ([a], rest) := by
  simp only [many, List.length_cons, upTo, h]
  cases cs.length with
  | zero => rfl
  | succ n => simp only [upTo, hrest, map]

/-- A text that is stuck starts with something other than a blank. -/
theorem Stuck.exists_cons (h : Stuck cs) : ∃ c tail, cs = c :: tail ∧ Text.isBlank c = false := by
  obtain ⟨hlead, hne, -⟩ := h
  obtain ⟨c, tail, rfl⟩ := List.exists_cons_of_ne_nil hne
  refine ⟨c, tail, rfl, ?_⟩
  have hhead := List.head?_dropWhile_not Text.isBlank (c :: tail)
  rw [← Text.skipBlanks, hlead.skip] at hhead
  exact hhead

/-- No list of statements gets behind a place where it is stuck. -/
theorem Stuck.many_statement (h : Stuck cs) : LeavesRest (many statement cs) := by
  obtain ⟨c, tail, rfl, hblank⟩ := h.exists_cons
  obtain ⟨hlead, -, hexpr | ⟨e, tail', hexpr⟩⟩ := h
  · have hnone : statement (c :: tail) = none := by
      rw [statement_eq, hlead.statementOver_of_none hexpr]
    exact ⟨[], c, tail, many_of_none hnone, hblank⟩
  · have hsome : statement (c :: tail) = some (.expr e, '=' :: '>' :: tail') :=
      hlead.statementOver_of_arrow hexpr
    exact ⟨[.expr e], '=', '>' :: tail', many_of_one hsome (statement_arrow tail'), by decide⟩

/-- A `return` is a statement. -/
theorem statement_return {stmt : Stmt} (hs : Text.skipBlanks cs = cs)
    (hword : keyword "return" cs = some ((), mid)) (hreturn : returnStmt cs = some (stmt, rest)) :
    statement cs = some (stmt, Text.skipBlanks rest) := by
  obtain ⟨tail, hcs, -, htail⟩ := keyword_eq_some hword
  rw [hs] at hcs
  have hwords : ∀ word ∈ ["let", "const", "var", "if"], keyword word cs = none := by
    intro word hw
    have hne : ∀ word ∈ ["let", "const", "var", "if"], "return" ≠ word := by decide
    rw [hcs, keyword_name (by decide) htail, if_neg (hne word hw)]
  have hbrace : mark '\x7b' cs = none := by
    rw [hcs]
    exact mark_of_ne (by decide) (by decide) _
  rw [statement_eq, statementOver_of_words hs hbrace hwords, spaced, hs]
  rw [choice, orElse_of_some hreturn]

/-- No list of statements gets behind a `return` of something where it is stuck. -/
theorem Stuck.many_return (h : Stuck mid) (hs : Text.skipBlanks cs = cs)
    (hword : keyword "return" cs = some ((), mid)) : LeavesRest (many statement cs) := by
  obtain ⟨c', tail', hcs⟩ : ∃ c' tail', cs = c' :: tail' := by
    obtain ⟨tail, hcs, -⟩ := keyword_eq_some hword
    exact ⟨'r', _, hs.symm.trans hcs⟩
  obtain ⟨c, tail, hmid, hblank⟩ := h.exists_cons
  obtain ⟨hlead, -, hexpr | ⟨e, more, hexpr⟩⟩ := h
  · have hopt : opt expression mid = some (none, mid) := by rw [opt, hexpr]
    have hsemicolon : semicolon mid = some ((), mid) := by
      rw [semicolon, map, opt, hlead.notSemicolon]
    have hreturn : returnStmt cs = some (.ret none, mid) :=
      map_of_some (skipRight_eq_some.mpr ⟨mid, (),
        skipLeft_eq_some.mpr ⟨(), mid, hword, hopt⟩, hsemicolon⟩)
    have hstatement := statement_return hs hword hreturn
    rw [hlead.skip] at hstatement
    have hnone : statement mid = none := by
      rw [statement_eq, hlead.statementOver_of_none hexpr]
    subst hcs
    exact ⟨[.ret none], c, tail, (many_of_one hstatement hnone).trans (by rw [hmid]), hblank⟩
  · have hopt : opt expression mid = some (some e, '=' :: '>' :: more) := by rw [opt, hexpr]
    have hreturn : returnStmt cs = some (.ret (some e), '=' :: '>' :: more) :=
      map_of_some (skipRight_eq_some.mpr ⟨_, (),
        skipLeft_eq_some.mpr ⟨(), mid, hword, hopt⟩, rfl⟩)
    have hstatement := statement_return hs hword hreturn
    subst hcs
    exact ⟨[.ret (some e)], '=', '>' :: more, many_of_one hstatement (statement_arrow more),
      by decide⟩

/-! ### Function literals -/

/-- How a function literal starts, in terms of the parsers: with the word `function`, or with
parameters or a name in front of an arrow. -/
theorem functionLiteral_start (h : functionLiteral cs = some (f, rest)) :
    (∃ mid, keyword "function" (Text.skipBlanks cs) = some ((), mid)) ∨
    ∃ mid tail, Text.skipBlanks mid = '=' :: '>' :: tail ∧
      ((∃ params, parameters (Text.skipBlanks cs) = some (params, mid)) ∨
        ∃ s, spaced name (Text.skipBlanks cs) = some (s, mid)) := by
  obtain ⟨_, _, hspaced, -⟩ := skipRight_eq_some.mp h
  obtain ⟨_, hliteral, -⟩ := spaced_eq_some.mp hspaced
  rcases of_orElse_eq_some hliteral with hnamed | harrow
  · obtain ⟨⟨params, body⟩, hpair, -⟩ := map_eq_some.mp hnamed
    obtain ⟨mid, hhead, -⟩ := pair_eq_some.mp hpair
    obtain ⟨_, mid', hword, -⟩ := skipLeft_eq_some.mp hhead
    exact .inl ⟨mid', hword⟩
  · obtain ⟨⟨params, body⟩, hpair, -⟩ := map_eq_some.mp harrow
    obtain ⟨_, hhead, -⟩ := pair_eq_some.mp hpair
    obtain ⟨mid, _, hparams, hsign⟩ := skipRight_eq_some.mp hhead
    obtain ⟨tail, harrow⟩ := arrow_eq_some hsign
    refine .inr ⟨mid, tail, harrow, ?_⟩
    rcases of_orElse_eq_some hparams with hparams | hname
    · exact .inl ⟨params, hparams⟩
    · obtain ⟨s, hs, -⟩ := map_eq_some.mp hname
      exact .inr ⟨s, hs⟩

/-- An identifier, and what is behind it. -/
theorem spacedName_cases (h : spaced name cs = some (s, mid)) :
    ∃ rest, Text.skipBlanks cs = s.toList ++ rest ∧ mid = Text.skipBlanks rest ∧
      isAnyName s = true ∧ s ∉ reservedWords ∧ ∀ d ∈ rest.head?, isNamePart d = false := by
  obtain ⟨rest, hname, rfl⟩ := spaced_eq_some.mp h
  obtain ⟨s', hany, hfree⟩ := filterMap_eq_some.mp hname
  split at hfree
  · exact nomatch hfree
  · next hword =>
      obtain rfl := Option.some.inj hfree
      obtain ⟨c, w, rfl, hcs, hc, hw, hrest⟩ := anyName_eq_some hany
      refine ⟨rest, ?_, rfl, ?_, by simpa using hword, hrest⟩
      · rw [hcs, String.toList_ofList]
      · rw [isAnyName, String.toList_ofList]
        simp only [hc, Bool.true_and, List.all_eq_true]
        exact hw

/-- An identifier is an expression up to what ends every level. -/
theorem expressionTo_name {d : Nat} (hs : isAnyName s = true) (hfree : s ∉ reservedWords)
    (hrest : ∀ d ∈ rest.head?, isNamePart d = false) (hends : Ends 0 (Text.skipBlanks rest))
    (hd : s.toList.length < d) :
    expressionTo d (s.toList ++ rest) = some (.var s, Text.skipBlanks rest) := by
  have hread := (Readable.var hs hfree).nested (d := d) (by rwa [written])
    (hends.of_skipBlanks hrest)
  rwa [written] at hread

/-- What parameters are: nothing, or names of which the first has a comma or the closing parenthesis
behind it. -/
theorem parameters_cases {params : List String} (h : parameters cs = some (params, mid)) :
    ∃ tail, Text.skipBlanks cs = '(' :: tail ∧
      ((∃ more, Text.skipBlanks tail = ')' :: more) ∨
        ∃ s rest, spaced name tail = some (s, rest) ∧
          ((∃ more, rest = ',' :: more) ∨
            ∃ more, rest = ')' :: more ∧ mid = Text.skipBlanks more)) := by
  obtain ⟨mid', _, hleft, hclose⟩ := skipRight_eq_some.mp h
  obtain ⟨_, start, hopen, hparams⟩ := skipLeft_eq_some.mp hleft
  obtain ⟨-, tail, hcs, rfl⟩ := mark_eq_some.mp hopen
  obtain ⟨-, more, hmid, rfl⟩ := mark_eq_some.mp hclose
  refine ⟨tail, hcs, ?_⟩
  rw [separated] at hparams
  split at hparams
  · obtain ⟨-, rfl⟩ := Prod.mk.inj (Option.some.inj hparams)
    rw [Text.skipBlanks_skipBlanks] at hmid
    exact .inl ⟨more, hmid⟩
  · next s rest hname =>
      have hrest : Text.skipBlanks rest = rest := by
        obtain ⟨_, -, rfl⟩ := spaced_eq_some.mp hname
        exact Text.skipBlanks_skipBlanks _
      have hname' : spaced name tail = some (s, rest) := by
        rw [spaced, Text.skipBlanks_skipBlanks] at hname
        exact hname
      refine .inr ⟨s, rest, hname', ?_⟩
      obtain ⟨names, hnames, -⟩ := map_eq_some.mp hparams
      cases rest with
      | nil =>
          obtain ⟨-, rfl⟩ := Prod.mk.inj (Option.some.inj hnames)
          cases hmid
      | cons c rest =>
          rw [List.length_cons, separatedRest] at hnames
          by_cases hc : c = ','
          · exact .inl ⟨rest, by rw [hc]⟩
          · have hnone : char ',' (c :: rest) = none := by simp [char, satisfy, hc]
            rw [hnone] at hnames
            obtain ⟨-, rfl⟩ := Prod.mk.inj (Option.some.inj hnames)
            exact .inr ⟨more, by rw [← hrest, hmid], rfl⟩

/-- Parameters are no expression, or one name in parentheses. -/
theorem expression_parameters {params : List String} (hs : Text.skipBlanks cs = cs)
    (h : parameters cs = some (params, mid)) (hends : Ends 0 mid) :
    expression cs = none ∨ ∃ s, expression cs = some (.var s, Text.skipBlanks mid) := by
  obtain ⟨tail, hcs, hcases⟩ := parameters_cases h
  rw [hs] at hcs
  subst hcs
  have hopen : expression ('(' :: tail) =
      expressionOver (expressionTo (tail.length + 1)) ('(' :: tail) := rfl
  have hop : unaryOp ('(' :: tail) = none :=
    unaryOp_of_ne (by decide) (by decide) (by decide) tail
  -- a name behind the parenthesis is what an expression there reads
  have hinner : ∀ s rest, spaced name tail = some (s, rest) → Ends 0 rest →
      expressionTo (tail.length + 1) (Text.skipBlanks tail) = some (.var s, rest) := by
    intro s rest hname hends
    obtain ⟨rest', htail, rfl, hany, hfree, hhead⟩ := spacedName_cases hname
    have hlength := Text.length_skipBlanks_le tail
    rw [htail, List.length_append] at hlength
    rw [htail]
    exact expressionTo_name hany hfree hhead hends (by omega)
  rw [hopen]
  rcases hcases with ⟨more, hmore⟩ | ⟨s, rest, hname, ⟨more, rfl⟩ | ⟨more, rfl, rfl⟩⟩
  · refine .inl (expressionOver_of_none hop (atom_paren_of_none fun e mid' hread => ?_))
    rw [hmore, expressionTo_mark (by decide) (by decide)] at hread
    exact nomatch hread
  · refine .inl (expressionOver_of_none hop (atom_paren_of_none fun e mid' hread => ?_))
    rw [hinner s _ hname (.closing (by decide) more)] at hread
    obtain ⟨-, rfl⟩ := Prod.mk.inj (Option.some.inj hread)
    exact mark_of_ne (by decide) (by decide) more
  · refine .inr ⟨s, ?_⟩
    have hatom := atom_paren (hinner s _ hname (.closing (by decide) more))
    rw [← Text.skipBlanks_skipBlanks] at hatom
    have hsuffixed := suffixed_of_atom hatom (hends.mono (by decide))
    exact levelParser_descend hsuffixed hends (by decide) (by decide) fun _ =>
      ⟨'(', tail, rfl, by decide, by decide, by decide⟩

/-- No expression starts with a reserved word that is no literal. -/
theorem expression_reserved {word : String} (hany : isAnyName word = true)
    (hword : word ∈ reservedWords) (hother : word ∉ literalWords)
    (htail : ∀ d ∈ tail.head?, isNamePart d = false) : expression (word.toList ++ tail) = none := by
  obtain ⟨c, w, heq, hc, -⟩ := exists_of_isAnyName hany
  have hmarks : ['!', '-'].any isNameStart = false := by decide
  have hne : ∀ d ∈ ['!', '-'], c ≠ d := by
    rintro d hd rfl
    exact List.any_eq_false.mp hmarks c hd hc
  refine expressionOver_of_none ?_ ((atom_name hany hother htail).trans (if_pos hword))
  rw [heq]
  exact unaryOp_of_ne (not_blank_of_isNameStart hc) (hne _ (by decide)) (hne _ (by decide)) _

/-- Statements get stuck where a function literal starts. -/
theorem stuck_of_functionLiteral (h : functionLiteral cs = some (f, rest)) :
    Stuck (Text.skipBlanks cs) := by
  have hs := Text.skipBlanks_skipBlanks cs
  have hwords : ∀ word ∈ statementWords ++ literalWords, word ∈ reservedWords := by decide
  rcases functionLiteral_start h with ⟨mid, hword⟩ |
    ⟨mid, tail, harrow, ⟨params, hparams⟩ | ⟨s, hname⟩⟩
  · obtain ⟨tail, htext, -, htail⟩ := keyword_eq_some hword
    have hfunction : isAnyName "function" = true := by decide
    rw [hs] at htext
    rw [htext]
    exact ⟨.of_name hfunction (by decide) htail, List.cons_ne_nil _ _,
      .inl (expression_reserved hfunction (by decide) (by decide) htail)⟩
  · obtain ⟨_, _, -, rfl, -⟩ := parameters_eq_some hparams
    obtain ⟨more, hopen, -⟩ := parameters_cases hparams
    rw [Text.skipBlanks_skipBlanks] at harrow
    rw [hs] at hopen
    have hexpr := expression_parameters hs hparams (by rw [harrow]; exact .arrow tail)
    rw [harrow, Text.skipBlanks_cons (by decide)] at hexpr
    refine ⟨?_, by rw [hopen]; exact List.cons_ne_nil _ _,
      hexpr.imp_right fun ⟨s, hs⟩ => ⟨_, _, hs⟩⟩
    rw [hopen]
    exact .of_mark (by decide) (by decide) (by decide)
  · obtain ⟨rest', htext, rfl, hany, hfree, hhead⟩ := spacedName_cases hname
    rw [Text.skipBlanks_skipBlanks] at harrow
    rw [hs] at htext
    obtain ⟨c, w, hchars, -⟩ := exists_of_isAnyName hany
    have hother : s ∉ statementWords := fun hm => hfree (hwords s (List.mem_append_left _ hm))
    have hexpr : expression (s.toList ++ rest') = some (.var s, Text.skipBlanks rest') :=
      expressionTo_name hany hfree hhead (by rw [harrow]; exact .arrow tail)
        (by rw [List.length_append]; omega)
    rw [htext]
    refine ⟨.of_name hany hother hhead, by rw [hchars]; exact List.cons_ne_nil _ _, .inr ?_⟩
    exact ⟨.var s, tail, by rw [hexpr, harrow]⟩

/-- Behind a `return` there is no function literal in the same place. -/
theorem functionLiteral_of_return (hword : keyword "return" (Text.skipBlanks cs) = some ((), mid)) :
    functionLiteral cs = none := by
  have hs := Text.skipBlanks_skipBlanks cs
  obtain ⟨tail, htext, -, htail⟩ := keyword_eq_some hword
  have hreturn : isAnyName "return" = true := by decide
  rw [hs] at htext
  rw [Option.eq_none_iff_forall_ne_some]
  rintro ⟨f, rest⟩ h
  rcases functionLiteral_start h with ⟨mid, hfunction⟩ |
    ⟨mid, tail', -, ⟨params, hparams⟩ | ⟨s, hname⟩⟩
  · rw [htext, keyword_name hreturn htail, if_neg (by decide)] at hfunction
    cases hfunction
  · obtain ⟨more, hopen, -⟩ := parameters_cases hparams
    rw [hs, htext] at hopen
    exact absurd (List.cons.inj hopen).1 (by decide)
  · obtain ⟨rest', hany, hfree⟩ := spaced_eq_some.mp hname
    rw [hs, htext, name, filterMap, anyName_toList hreturn htail] at hany
    cases hany

/-! ### Whole texts -/

/-- A list of statements that leaves something is not the whole text. -/
theorem run_program_of_leavesRest (h : LeavesRest (many statement (Text.skipBlanks cs))) :
    run program cs = none := by
  obtain ⟨stmts, c, tail, hmany, hblank⟩ := h
  have hread : program cs = some (stmts, c :: tail) :=
    spaced_eq_some.mpr ⟨c :: tail, hmany, (Text.skipBlanks_cons hblank).symm⟩
  rw [run, hread]

/-- Code that parses as a function literal parses in no other shape. -/
theorem parse_of_function {code : String} (h : parseFunction code = some f) :
    parseProgram code = none ∧ parseWrapped code = none := by
  have hliteral := run_eq_some.mp h
  refine ⟨run_program_of_leavesRest (stuck_of_functionLiteral hliteral).many_statement, ?_⟩
  rw [Option.eq_none_iff_forall_ne_some]
  intro f' hwrapped
  obtain ⟨_, hspaced, -⟩ := spaced_eq_some.mp (run_eq_some.mp hwrapped)
  obtain ⟨_, mid, hword, -⟩ := skipLeft_eq_some.mp hspaced
  rw [functionLiteral_of_return hword] at hliteral
  exact nomatch hliteral

/-- Code that parses as a `return` of a function literal parses as no list of statements. -/
theorem parse_of_wrapped {code : String} (h : parseWrapped code = some f) :
    parseProgram code = none := by
  obtain ⟨_, hspaced, -⟩ := spaced_eq_some.mp (run_eq_some.mp h)
  obtain ⟨_, mid, hword, hliteral⟩ := skipLeft_eq_some.mp hspaced
  have hmid : Text.skipBlanks mid = mid := by
    obtain ⟨tail, -, rfl, -⟩ := keyword_eq_some hword
    exact Text.skipBlanks_skipBlanks tail
  have hstuck := stuck_of_functionLiteral hliteral
  rw [hmid] at hstuck
  exact run_program_of_leavesRest (hstuck.many_return (Text.skipBlanks_skipBlanks _) hword)

/-! ### Compiling -/

/-- No two shapes compile the same code. -/
theorem shape_unique {code : String} {shape shape' : Shape}
    (h : (shape.compile? code).isSome = true) (h' : (shape'.compile? code).isSome = true) :
    shape = shape' := by
  have honly : ∃ only : Shape, ∀ shape : Shape, (shape.compile? code).isSome = true →
      shape = only := by
    cases hf : parseFunction code with
    | some f =>
        obtain ⟨hprogram, hwrapped⟩ := parse_of_function hf
        refine ⟨.function, fun shape h => ?_⟩
        cases shape with
        | block => simp [Shape.compile?, hprogram] at h
        | function => rfl
        | wrapped => simp [Shape.compile?, hwrapped] at h
    | none =>
        cases hw : parseWrapped code with
        | some f =>
            have hprogram := parse_of_wrapped hw
            refine ⟨.wrapped, fun shape h => ?_⟩
            cases shape with
            | block => simp [Shape.compile?, hprogram] at h
            | function => simp [Shape.compile?, hf] at h
            | wrapped => rfl
        | none =>
            refine ⟨.block, fun shape h => ?_⟩
            cases shape with
            | block => rfl
            | function => simp [Shape.compile?, hf] at h
            | wrapped => simp [Shape.compile?, hw] at h
  obtain ⟨only, honly⟩ := honly
  rw [honly shape h, honly shape' h']

/-- Some shapes compile some code to what one of them makes of it. -/
theorem compileWith_eq_ok_iff {shapes : List Shape} {code : String} {handler : Handler} :
    compileWith shapes code = .ok handler ↔
      ∃ shape ∈ shapes, shape.recognizes code = true ∧ shape.compile? code = some handler := by
  have hok : compileWith shapes code = .ok handler ↔
      (shapes.filter (·.recognizes code)).findSome? (·.compile? code) = some handler := by
    rw [compileWith]
    split
    · next h => rw [h, Except.ok.injEq, Option.some.injEq]
    · next h => rw [h]; exact iff_of_false (fun h => by cases h) (fun h => by cases h)
  rw [hok]
  constructor
  · intro hfound
    obtain ⟨shape, hshape, hcompile⟩ := List.exists_of_findSome?_eq_some hfound
    obtain ⟨hmem, hrecognizes⟩ := List.mem_filter.mp hshape
    exact ⟨shape, hmem, hrecognizes, hcompile⟩
  · rintro ⟨shape, hmem, hrecognizes, hcompile⟩
    have hsome : ((shapes.filter (·.recognizes code)).findSome? (·.compile? code)).isSome = true :=
      List.findSome?_isSome_iff.mpr ⟨shape, List.mem_filter.mpr ⟨hmem, hrecognizes⟩,
        by rw [hcompile]; rfl⟩
    obtain ⟨handler', hfound⟩ := Option.isSome_iff_exists.mp hsome
    obtain ⟨shape', -, hcompile'⟩ := List.exists_of_findSome?_eq_some hfound
    obtain rfl := shape_unique (by rw [hcompile]; rfl) (by rw [hcompile']; rfl)
    rw [hfound, ← hcompile, hcompile']

/-- A shape that is registered is in the list, with those that were there. -/
theorem mem_registerShape {shape shape' : Shape} {shapes : List Shape} :
    shape' ∈ registerShape shape shapes ↔ shape' = shape ∨ shape' ∈ shapes := by
  induction shapes with
  | nil => exact List.mem_singleton.trans (or_iff_left (List.not_mem_nil)).symm
  | cons s rest ih =>
      rw [registerShape]
      split
      · exact List.mem_cons
      · rw [List.mem_cons, ih, List.mem_cons]
        tauto

/-- The shapes that are tried are the registered ones. -/
theorem mem_shapeOrder {shape : Shape} {registered : List Shape} :
    shape ∈ shapeOrder registered ↔ shape ∈ registered := by
  have hfold : ∀ (registered order : List Shape),
      shape ∈ registered.foldl (fun order s => registerShape s order) order ↔
        shape ∈ registered ∨ shape ∈ order := by
    intro registered
    induction registered with
    | nil => exact fun order => (or_iff_right List.not_mem_nil).symm
    | cons s registered ih =>
        intro order
        rw [List.foldl_cons, ih, mem_registerShape, List.mem_cons]
        tauto
  rw [shapeOrder, hfold]
  exact or_iff_left List.not_mem_nil

/-- At most one of the three parsers succeeds on some code, so the handler does not depend on the
order in which the shapes were registered, nor on how often: whatever was registered, two lists of
shapes that both compile the code compile it to the same handler, and with all three shapes the
result is always that of the standard list. -/
theorem shapes_disjoint (code : String) :
    [(parseProgram code).isSome, (parseFunction code).isSome,
      (parseWrapped code).isSome].count true ≤ 1 ∧
    (∀ (registered registered' : List Shape) (handler handler' : Handler),
      compileWith (shapeOrder registered) code = .ok handler →
      compileWith (shapeOrder registered') code = .ok handler' → handler = handler') ∧
    ∀ registered : List Shape, (∀ shape, shape ∈ registered) → ∀ handler,
      compileWith (shapeOrder registered) code = .ok handler ↔ compile code = .ok handler := by
  refine ⟨?_, fun registered registered' handler handler' h h' => ?_,
    fun registered hall handler => ?_⟩
  · cases hf : parseFunction code with
    | some f =>
        obtain ⟨hprogram, hwrapped⟩ := parse_of_function hf
        simp [hprogram, hwrapped]
    | none =>
        cases hw : parseWrapped code with
        | some f =>
            simp [parse_of_wrapped hw]
        | none => cases (parseProgram code).isSome <;> decide
  · obtain ⟨shape, -, -, hcompile⟩ := compileWith_eq_ok_iff.mp h
    obtain ⟨shape', -, -, hcompile'⟩ := compileWith_eq_ok_iff.mp h'
    obtain rfl := shape_unique (by rw [hcompile]; rfl) (by rw [hcompile']; rfl)
    exact Option.some.inj (hcompile.symm.trans hcompile')
  · have hmem : ∀ shape, shape ∈ shapeOrder registered ↔ shape ∈ allShapes := fun shape => by
      refine iff_of_true (mem_shapeOrder.mpr (hall shape)) ?_
      cases shape <;> decide
    rw [compile, compileWith_eq_ok_iff, compileWith_eq_ok_iff]
    simp only [hmem]

/-- A function literal compiles to the same handler if the wrapped shape was registered first and
the function shape twice. -/
theorem shapes_disjoint_reversed :
    (∀ shape : Shape, shape ∈ [.wrapped, .function, .block, .function]) ∧
      compileWith (shapeOrder [.wrapped, .function, .block, .function]) "(e) => e" =
        .ok ⟨.function, ["e"], [.ret (some (.var "e"))]⟩ := by
  have hall : ∀ shape : Shape, shape ∈ [.wrapped, .function, .block, .function] := by
    intro shape
    cases shape <;> decide
  have htext : blankComments "(e) => e".toList = ['(', 'e', ')', ' ', '=', '>', ' ', 'e'] := by
    decide
  have hparse : parseFunction "(e) => e" = some ⟨["e"], [.ret (some (.var "e"))]⟩ := by
    rw [parseFunction, readWhole, htext]
    exact run_eq_some.mpr rfl
  have hcompile : compile "(e) => e" = .ok ⟨.function, ["e"], [.ret (some (.var "e"))]⟩ := by
    refine compileWith_eq_ok_iff.mpr ⟨.function, by decide, by decide, ?_⟩
    rw [Shape.compile?, hparse]
    rfl
  exact ⟨hall, ((shapes_disjoint "(e) => e").2.2 _ hall _).mpr hcompile⟩

end WidgetFlow.Script
