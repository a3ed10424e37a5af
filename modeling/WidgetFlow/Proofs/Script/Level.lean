import Mathlib.Data.Bool.AllAny
import WidgetFlow.Proofs.Script.Token

/-!
# The levels of the grammar

Each level of expressions has a parser (`levelParser`), from the conditional expression down to what
is written without any operator. `Ends p cs` says that nothing in `cs` goes on with an expression of
the level `p`, so that its parser stops in front of `cs`.

## Main results

* `Ends.closing`, `Ends.question`, `Ends.sign`: what ends an expression.
* `atom_array`, `atom_object`, `atom_paren`, `atom_name`: the atoms.
* `suffix_member`, `suffix_index`, `suffix_call`: the suffixes.
-/

namespace WidgetFlow.Script

open WidgetFlow.Parser

variable {c : Char} {cs rest : List Char} {expr : Parser Expr} {e : Expr} {p q : Nat}

/-! ### Levels of the grammar -/

/-- The operators of a level. -/
def levelOp : Nat → Parser BinaryOp
  | 1 => sign .or
  | 2 => sign .and
  | 3 => choice [sign .strictEq, sign .strictNe, sign .eq, sign .ne]
  | 4 => choice [sign .le, sign .ge, sign .lt, sign .gt]
  | 5 => choice [plainSign .add, plainSign .sub]
  | 6 => choice [sign .mul, sign .div, sign .rem]
  | _ => fail

/-- The parser of a level. -/
def levelParser (expr : Parser Expr) : Nat → Parser Expr
  | 0 => expressionOver expr
  | 1 => disjunction expr
  | 2 => conjunction expr
  | 3 => equality expr
  | 4 => relation expr
  | 5 => sum expr
  | 6 => product expr
  | 7 => unary expr
  | _ => suffixed expr

/-- An operator of a level with its right operand. -/
def rightSide (expr : Parser Expr) (p : Nat) : Parser (BinaryOp × Expr) :=
  pair (spaced (levelOp p)) (levelParser expr (p + 1))

/-- A left operand with an operator and its right operand. -/
def joined (left : Expr) : BinaryOp × Expr → Expr
  | (op, right) => .binary op left right

/-- The parsers of the binary levels fold what follows the first operand. -/
theorem levelParser_binary (expr : Parser Expr) (hlow : 1 ≤ p) (hhigh : p ≤ 6) :
    levelParser expr p = foldMany (levelParser expr (p + 1)) (rightSide expr p) joined := by
  match p with
  | 1 | 2 | 3 | 4 | 5 | 6 => rfl
  | 0 | _ + 7 => omega

/-! ### Operators -/

/-- The characters that operators of a level start with. -/
def opStarts : Nat → List Char
  | 1 => ['|']
  | 2 => ['&']
  | 3 => ['=', '!']
  | 4 => ['<', '>']
  | 5 => ['+', '-']
  | 6 => ['*', '/', '%']
  | _ => []

/-- There are six levels of binary operators. -/
theorem level_bounds (op : BinaryOp) : 1 ≤ op.level ∧ op.level ≤ 6 := by
  cases op <;> decide

/-- An operator has a sign. -/
theorem exists_sign (op : BinaryOp) : ∃ d ds, op.sign.toList = d :: ds ∧ d ∈ opStarts op.level := by
  cases op <;> exact ⟨_, _, rfl, by decide⟩

/-- No operator of a level is read where none of the level starts. -/
theorem levelOp_of_not_mem (h : c ∉ opStarts q) (cs : List Char) :
    levelOp q (c :: cs) = none := by
  match q with
  | 0 | _ + 7 => rfl
  | 1 | 2 | 3 | 4 | 5 | 6 =>
    simp only [opStarts, List.mem_cons, List.not_mem_nil, not_or, eq_comm (a := c)] at h
    simp [levelOp, choice, orElse, sign, plainSign, skipRight, andThen, map, Parser.literal,
      BinaryOp.sign, List.isPrefixOf, h, fail]

/-- An operator is read at its level. -/
theorem levelOp_sign (op : BinaryOp) (cs : List Char) :
    levelOp op.level (op.sign.toList ++ ' ' :: cs) = some (op, ' ' :: cs) := by
  cases op <;> rfl

/-- The operators of tighter levels start with other characters. -/
theorem not_mem_opStarts {op : BinaryOp} (hq : op.level < q) (hc : c ∈ opStarts op.level) :
    c ∉ opStarts q := by
  have hall : ∀ c ∈ opStarts op.level, c ∉ opStarts q := by
    rw [← List.all_iff_forall_prop]
    match q with
    | 0 | 1 | 2 | 3 | 4 | 5 | 6 => revert hq; cases op <;> decide
    | _ + 7 => cases op <;> rfl
  exact hall c hc

/-! ### What may stand behind an expression -/

/-- Nothing in a text goes on with an expression of a level: no name and no suffix goes on, and no
operator of the level or of a tighter one follows. -/
structure Ends (p : Nat) (cs : List Char) : Prop where
  name : ∀ d ∈ cs.head?, isNamePart d = false
  suffix : p ≤ 8 → ∀ d ∈ (Text.skipBlanks cs).head?, d ≠ '.' ∧ d ≠ '[' ∧ d ≠ '('
  op : ∀ q, p ≤ q → levelOp q (Text.skipBlanks cs) = none
  cond : p = 0 → ∀ d ∈ (Text.skipBlanks cs).head?, d ≠ '?'

namespace Ends

/-- What ends a level ends the tighter ones. -/
theorem mono (h : Ends p cs) (hpq : p ≤ q) : Ends q cs :=
  ⟨h.name, fun hq => h.suffix (by omega), fun r hr => h.op r (by omega),
    fun hq => h.cond (by omega)⟩

/-- A text that ends here. -/
theorem nil : Ends 0 [] := by
  refine ⟨nofun, fun _ => nofun, fun q _ => ?_, fun _ => nofun⟩
  match q with
  | 0 | 1 | 2 | 3 | 4 | 5 | 6 | _ + 7 => rfl

/-- A blank in front changes nothing. -/
theorem blank (h : Ends p cs) : Ends p (' ' :: cs) := by
  refine ⟨fun d hd => ?_, h.suffix, h.op, h.cond⟩
  obtain rfl := Option.some.inj hd
  decide

/-- A character ends a level if no name, no suffix and no operator of the level or of a tighter one
goes on with it. -/
theorem of_head (hname : isNamePart c = false) (hblank : Text.isBlank c = false)
    (hsuffix : p ≤ 8 → c ≠ '.' ∧ c ≠ '[' ∧ c ≠ '(')
    (hop : ∀ q, p ≤ q → levelOp q (c :: cs) = none) (hcond : p = 0 → c ≠ '?') :
    Ends p (c :: cs) := by
  have hskip : Text.skipBlanks (c :: cs) = c :: cs := Text.skipBlanks_cons hblank
  refine ⟨fun d hd => ?_, fun hp d hd => ?_, fun q hq => ?_, fun hp d hd => ?_⟩
  · rwa [← Option.some.inj hd]
  · rw [hskip] at hd
    exact Option.some.inj hd ▸ hsuffix hp
  · rw [hskip]
    exact hop q hq
  · rw [hskip] at hd
    exact Option.some.inj hd ▸ hcond hp

/-- What ends a level without the blanks in front of it ends it with them. -/
theorem of_skipBlanks (h : Ends p (Text.skipBlanks cs))
    (hname : ∀ d ∈ cs.head?, isNamePart d = false) : Ends p cs := by
  have hskip := Text.skipBlanks_skipBlanks cs
  refine ⟨hname, fun hp => ?_, fun q hq => ?_, fun hp => ?_⟩
  · exact hskip ▸ h.suffix hp
  · exact hskip ▸ h.op q hq
  · exact hskip ▸ h.cond hp

/-- An arrow ends every level. -/
theorem arrow (cs : List Char) : Ends 0 ('=' :: '>' :: cs) := by
  refine of_head (by decide) (by decide) (fun _ => by decide) (fun q _ => ?_)
    fun _ => by decide
  match q with
  | 0 | 1 | 2 | 3 | 4 | 5 | 6 | _ + 7 => rfl

/-- What is no part of a name ends what is tighter than every level. -/
theorem tight (hname : isNamePart c = false) (hblank : Text.isBlank c = false) (cs : List Char) :
    Ends 9 (c :: cs) := by
  refine of_head hname hblank (fun h9 => by omega) (fun q hq => levelOp_of_not_mem ?_ cs) nofun
  obtain ⟨q, rfl⟩ := Nat.exists_eq_add_of_le' hq
  exact nofun

/-- A closing mark, a comma or a colon ends every level. -/
theorem closing (hc : c ∈ [')', ']', '\x7d', ',', ':']) (cs : List Char) : Ends 0 (c :: cs) := by
  have hall : ∀ c ∈ [')', ']', '\x7d', ',', ':'], isNamePart c = false ∧ Text.isBlank c = false ∧
      (c ≠ '.' ∧ c ≠ '[' ∧ c ≠ '(') ∧ c ≠ '?' ∧ ∀ q ≤ 6, c ∉ opStarts q :=
    List.all_iff_forall_prop.mp (by decide)
  obtain ⟨hname, hblank, hsuffix, hcond, hop⟩ := hall c hc
  refine of_head hname hblank (fun _ => hsuffix) (fun q _ => levelOp_of_not_mem ?_ cs)
    fun _ => hcond
  match q with
  | 0 | 1 | 2 | 3 | 4 | 5 | 6 => exact hop _ (by omega)
  | _ + 7 => exact nofun

/-- A question mark ends every level but the loosest. -/
theorem question (cs : List Char) : Ends 1 ('?' :: cs) := by
  refine of_head (by decide) (by decide) (fun _ => by decide)
    (fun q _ => levelOp_of_not_mem ?_ cs) nofun
  match q with
  | 0 | 1 | 2 | 3 | 4 | 5 | 6 => decide
  | _ + 7 => exact nofun

/-- An operator ends the levels above its own. -/
theorem sign (op : BinaryOp) (cs : List Char) :
    Ends (op.level + 1) (op.sign.toList ++ ' ' :: cs) := by
  obtain ⟨d, ds, hsign, hd⟩ := exists_sign op
  have hall : ∀ d ∈ opStarts op.level, isNamePart d = false ∧ Text.isBlank d = false ∧
      d ≠ '.' ∧ d ≠ '[' ∧ d ≠ '(' :=
    List.all_iff_forall_prop.mp (by cases op <;> decide)
  obtain ⟨hname, hblank, hsuffix⟩ := hall d hd
  rw [hsign, List.cons_append]
  exact of_head hname hblank (fun _ => hsuffix)
    (fun q hq => levelOp_of_not_mem (not_mem_opStarts hq hd) _) nofun

end Ends

/-! ### Atoms -/

/-- A literal is an atom. -/
theorem atom_literal {mid : List Char} (h : literal cs = some (e, mid))
    (hskip : Text.skipBlanks cs = cs) : atom expr cs = some (e, Text.skipBlanks mid) :=
  spaced_eq_some.mpr ⟨mid, by rw [hskip]; exact orElse_of_some h, rfl⟩

/-- A list in brackets is an atom. -/
theorem atom_array {items : List Expr}
    (h : expressions expr (Text.skipBlanks cs) = some (items, ']' :: rest)) :
    atom expr ('[' :: cs) = some (.array items, Text.skipBlanks rest) := by
  refine spaced_eq_some.mpr ⟨Text.skipBlanks rest, ?_, (Text.skipBlanks_skipBlanks rest).symm⟩
  rw [Text.skipBlanks_cons (by decide)]
  refine (orElse_of_none (literal_mark (by decide) cs)).trans ?_
  exact orElse_of_some (map_of_some (between_marks (by decide) (by decide) h))

/-- A record in braces is an atom. -/
theorem atom_object {entries : List (String × Expr)}
    (h : separated (entry expr) (mark ',') (Text.skipBlanks cs) = some (entries, '\x7d' :: rest)) :
    atom expr ('\x7b' :: cs) = some (.object entries, Text.skipBlanks rest) := by
  refine spaced_eq_some.mpr ⟨Text.skipBlanks rest, ?_, (Text.skipBlanks_skipBlanks rest).symm⟩
  rw [Text.skipBlanks_cons (by decide)]
  refine (orElse_of_none (literal_mark (by decide) cs)).trans ?_
  refine (orElse_of_none (map_of_none (between_of_ne (by decide) (by decide) cs))).trans ?_
  exact orElse_of_some (map_of_some (between_marks (by decide) (by decide) h))

/-- An expression in parentheses is an atom. -/
theorem atom_paren (h : expr (Text.skipBlanks cs) = some (e, ')' :: rest)) :
    atom expr ('(' :: cs) = some (e, Text.skipBlanks rest) := by
  refine spaced_eq_some.mpr ⟨Text.skipBlanks rest, ?_, (Text.skipBlanks_skipBlanks rest).symm⟩
  rw [Text.skipBlanks_cons (by decide)]
  refine (orElse_of_none (literal_mark (by decide) cs)).trans ?_
  refine (orElse_of_none (map_of_none (between_of_ne (by decide) (by decide) cs))).trans ?_
  refine (orElse_of_none (map_of_none (between_of_ne (by decide) (by decide) cs))).trans ?_
  exact orElse_of_some (between_marks (by decide) (by decide) h)

/-- Without an expression and the closing parenthesis behind it there is no atom in parentheses. -/
theorem atom_paren_of_none
    (h : ∀ e mid, expr (Text.skipBlanks cs) = some (e, mid) → mark ')' mid = none) :
    atom expr ('(' :: cs) = none := by
  have hparen : between (mark '(') (mark ')') expr ('(' :: cs) = none := by
    cases hinner : expr (Text.skipBlanks cs) with
    | none =>
        refine andThen_of_none ?_
        rw [skipLeft, andThen_of_some (mark_self (by decide) cs), hinner]
    | some r =>
        obtain ⟨e, mid⟩ := r
        have hleft : skipLeft (mark '(') expr ('(' :: cs) = some (e, mid) :=
          skipLeft_eq_some.mpr ⟨'(', _, mark_self (by decide) cs, hinner⟩
        rw [between, skipRight, andThen_of_some hleft, map_of_none (h e mid hinner)]
  have hname : name ('(' :: cs) = none := by
    rw [name, filterMap, anyName_of_head (by simpa using (by decide))]
  rw [atom, spaced, Text.skipBlanks_cons (by decide)]
  rw [choice, orElse_of_none (literal_mark (by decide) cs)]
  rw [choice, orElse_of_none (map_of_none (between_of_ne (by decide) (by decide) cs))]
  rw [choice, orElse_of_none (map_of_none (between_of_ne (by decide) (by decide) cs))]
  rw [choice, orElse_of_none hparen]
  rw [choice, orElse_of_none (map_of_none hname)]
  rfl

/-- A name that is no literal is an atom, unless it is another reserved word. -/
theorem atom_name {s : String} (hs : isAnyName s = true) (hother : s ∉ literalWords)
    (hrest : ∀ d ∈ rest.head?, isNamePart d = false) :
    atom expr (s.toList ++ rest) =
      if s ∈ reservedWords then none else some (.var s, Text.skipBlanks rest) := by
  have hliteral := literal_name hs hother hrest
  obtain ⟨c, w, heq, hc, -⟩ := exists_of_isAnyName hs
  have hblank := not_blank_of_isNameStart hc
  have hmarks : ['[', '\x7b', '('].any isNameStart = false := by decide
  have hne : ∀ d ∈ ['[', '\x7b', '('], c ≠ d := by
    rintro d hd rfl
    exact List.any_eq_false.mp hmarks c hd hc
  have hchoice : atom expr (s.toList ++ rest) =
      spaced (choice [map .var name]) (s.toList ++ rest) := by
    rw [atom, spaced, spaced, skipBlanks_name hs]
    rw [heq, List.cons_append] at hliteral ⊢
    rw [choice, orElse_of_none hliteral]
    rw [choice, orElse_of_none (map_of_none (between_of_ne hblank (hne '[' (by decide)) _))]
    rw [choice, orElse_of_none (map_of_none (between_of_ne hblank (hne '\x7b' (by decide)) _))]
    rw [choice, orElse_of_none (between_of_ne hblank (hne '(' (by decide)) _)]
  rw [hchoice, spaced, skipBlanks_name hs, choice, orElse, map, name, filterMap,
    anyName_toList hs hrest]
  by_cases hword : s ∈ reservedWords
  · simp [hword, choice, fail]
  · simp [hword]

/-! ### Suffixes and prefix operators -/

/-- A member is a suffix. -/
theorem suffix_member {s : String} (hs : isAnyName s = true)
    (hrest : ∀ d ∈ rest.head?, isNamePart d = false) :
    suffix expr ('.' :: (s.toList ++ rest)) = some (.member s, Text.skipBlanks rest) := by
  refine spaced_eq_some.mpr ⟨rest, ?_, rfl⟩
  rw [Text.skipBlanks_cons (by decide)]
  refine orElse_of_some (map_of_some (skipLeft_eq_some.mpr ⟨'.', s.toList ++ rest, ?_, ?_⟩))
  · rw [mark_self (by decide), skipBlanks_name hs]
  · exact anyName_toList hs hrest

/-- An expression in brackets is a suffix. -/
theorem suffix_index (h : expr (Text.skipBlanks cs) = some (e, ']' :: rest)) :
    suffix expr ('[' :: cs) = some (.index e, Text.skipBlanks rest) := by
  refine spaced_eq_some.mpr ⟨Text.skipBlanks rest, ?_, (Text.skipBlanks_skipBlanks rest).symm⟩
  rw [Text.skipBlanks_cons (by decide)]
  refine Eq.trans (orElse_of_none (map_of_none (andThen_of_none
    (mark_of_ne (by decide) (by decide) cs)))) ?_
  exact orElse_of_some (map_of_some (between_marks (by decide) (by decide) h))

/-- Arguments in parentheses are a suffix. -/
theorem suffix_call {args : List Expr}
    (h : expressions expr (Text.skipBlanks cs) = some (args, ')' :: rest)) :
    suffix expr ('(' :: cs) = some (.call args, Text.skipBlanks rest) := by
  refine spaced_eq_some.mpr ⟨Text.skipBlanks rest, ?_, (Text.skipBlanks_skipBlanks rest).symm⟩
  rw [Text.skipBlanks_cons (by decide)]
  refine Eq.trans (orElse_of_none (map_of_none (andThen_of_none
    (mark_of_ne (by decide) (by decide) cs)))) ?_
  refine (orElse_of_none (map_of_none (between_of_ne (by decide) (by decide) cs))).trans ?_
  exact orElse_of_some (map_of_some (between_marks (by decide) (by decide) h))

/-- No suffix is read where none starts. -/
theorem suffix_of_ne (h : ∀ d ∈ (Text.skipBlanks cs).head?, d ≠ '.' ∧ d ≠ '[' ∧ d ≠ '(') :
    suffix expr (Text.skipBlanks cs) = none := by
  have hskip := Text.skipBlanks_skipBlanks cs
  rw [suffix, spaced, hskip]
  cases hcs : Text.skipBlanks cs with
  | nil => rfl
  | cons c tail =>
      rw [hcs] at h hskip
      obtain ⟨hdot, hindex, hcall⟩ := h c rfl
      have hmark : ∀ d, c ≠ d → mark d (c :: tail) = none := fun d hne => by
        rw [mark, spaced, hskip, char, satisfy, if_neg (by simpa using hne)]
      have hnone : choice [map Suffix.member (skipLeft (mark '.') anyName),
          map .index (between (mark '[') (mark ']') expr),
          map .call (between (mark '(') (mark ')') (expressions expr))] (c :: tail) = none := by
        refine choice_of_none ?_
        simp only [List.forall_mem_cons, List.not_mem_nil, false_imp_iff, implies_true, and_true]
        refine ⟨?_, ?_, ?_⟩
        · exact map_of_none (andThen_of_none (hmark _ hdot))
        · exact map_of_none (andThen_of_none (andThen_of_none (hmark _ hindex)))
        · exact map_of_none (andThen_of_none (andThen_of_none (hmark _ hcall)))
      rw [hnone]

/-- No prefix operator is read where none stands. -/
theorem unaryOp_of_ne (hblank : Text.isBlank c = false) (hnot : c ≠ '!') (hneg : c ≠ '-')
    (cs : List Char) : unaryOp (c :: cs) = none := by
  rw [unaryOp, spaced, Text.skipBlanks_cons hblank]
  simp [orElse, map, char, satisfy, hnot, hneg]

/-- Without a prefix operator there is just an expression with its suffixes. -/
theorem unary_of_ne (hblank : Text.isBlank c = false) (hnot : c ≠ '!') (hneg : c ≠ '-')
    (cs : List Char) : unary expr (c :: cs) = suffixed expr (c :: cs) := by
  rw [unary, andThen_of_some (many_of_none (unaryOp_of_ne hblank hnot hneg cs)), map]
  split <;> simp [*]

/-- A prefix operator is read in front of its operand. -/
theorem unary_sign (op : UnaryOp) (hskip : Text.skipBlanks cs = cs) :
    unary expr (op.sign :: cs) = map (.unary op) (unary expr) cs := by
  have hop : unaryOp (op.sign :: cs) = some (op, cs) := by
    refine spaced_eq_some.mpr ⟨cs, ?_, hskip.symm⟩
    cases op <;> rfl
  simp only [unary, andThen, many_cons hop, map]
  cases many unaryOp cs with
  | none => rfl
  | some r =>
      obtain ⟨ops, rest⟩ := r
      simp only
      cases suffixed expr rest with
      | none => rfl
      | some r => rfl

/-! ### Where no expression starts -/

/-- Nothing is read at a binary level where nothing is read at the tighter ones. -/
theorem levelParser_of_none (h : levelParser expr 7 cs = none) (hp : p ≤ 7) :
    levelParser expr p cs = none := by
  have hbinary : ∀ k p, p + k = 7 → 1 ≤ p → levelParser expr p cs = none := by
    intro k
    induction k with
    | zero =>
        intro p hk _
        obtain rfl : p = 7 := by omega
        exact h
    | succ k ih =>
        intro p hk hlow
        rw [levelParser_binary expr hlow (by omega)]
        exact andThen_of_none (ih (p + 1) (by omega) (by omega))
  cases p with
  | zero => exact andThen_of_none (hbinary 6 1 rfl (by decide))
  | succ p => exact hbinary (7 - (p + 1)) (p + 1) (by omega) (by omega)

/-- No expression is read where neither a prefix operator nor an atom is. -/
theorem expressionOver_of_none (hop : unaryOp cs = none) (hatom : atom expr cs = none) :
    expressionOver expr cs = none := by
  refine levelParser_of_none (p := 0) ?_ (by decide)
  have hsuffixed : suffixed expr cs = none := andThen_of_none hatom
  rw [levelParser, unary, andThen_of_some (many_of_none hop)]
  exact map_of_none hsuffixed

/-- The marks that expressions start with. -/
def openers : List Char := ['!', '-', '[', '\x7b', '(']

/-- No expression is read at a mark that none starts with. -/
theorem expressionTo_mark (hmark : isMark c = true) (hc : c ∉ openers) (d : Nat) (cs : List Char) :
    expressionTo d (c :: cs) = none := by
  have hne : ∀ o ∈ openers, c ≠ o := fun o ho heq => hc (heq ▸ ho)
  have hfree := hmark
  simp only [isMark, Bool.and_eq_true, Bool.not_eq_true', bne_iff_ne] at hfree
  obtain ⟨⟨⟨⟨hblank, hname⟩, -⟩, -⟩, -⟩ := hfree
  cases d with
  | zero => rfl
  | succ d =>
      refine expressionOver_of_none ?_ ?_
      · exact unaryOp_of_ne hblank (hne '!' (by decide)) (hne '-' (by decide)) cs
      · rw [atom, spaced, Text.skipBlanks_cons hblank, choice_of_none]
        simp only [List.forall_mem_cons, List.not_mem_nil, false_imp_iff, implies_true, and_true]
        refine ⟨?_, ?_, ?_, ?_, ?_⟩
        · exact literal_mark hmark cs
        · exact map_of_none (between_of_ne hblank (hne '[' (by decide)) cs)
        · exact map_of_none (between_of_ne hblank (hne '\x7b' (by decide)) cs)
        · exact between_of_ne hblank (hne '(' (by decide)) cs
        · refine map_of_none ?_
          rw [name, filterMap, anyName_of_head (by simpa using hname)]

/-! ### Lists -/

/-- A text goes on with a comma or a closing mark. -/
def GoesOn (close : Char) (cs : List Char) : Prop := ∃ c tail, cs = c :: tail ∧ c ∈ [',', close]

/-- An item is read from a text that a comma or a closing mark stands behind. -/
def ReadsItem {α : Type} (item : Parser α) (close : Char) (t : List Char) (a : α) : Prop :=
  (∃ c tail, t = c :: tail ∧ Text.isBlank c = false) ∧
    ∀ rest, GoesOn close rest → item (t ++ rest) = some (a, rest)

section Lists

variable {α : Type} {item : Parser α} {close : Char} {t : List Char} {ts : List (List Char)} {a : α}
  {as : List α}

/-- Behind an item of a list there is a comma or the closing mark. -/
theorem goesOn_flatMap (ts : List (List Char)) (close : Char) (rest : List Char) :
    GoesOn close ((ts.flatMap fun t => ',' :: ' ' :: t) ++ close :: rest) := by
  cases ts with
  | nil => exact ⟨close, rest, rfl, by simp⟩
  | cons t ts => exact ⟨',', _, rfl, by simp⟩

/-- A blank in front of an item does not count. -/
theorem ReadsItem.skipBlanks (h : ReadsItem item close t a) (rest : List Char) :
    Text.skipBlanks (t ++ rest) = t ++ rest := by
  obtain ⟨⟨c, tail, rfl, hc⟩, -⟩ := h
  exact Text.skipBlanks_cons hc

/-- Further items are read up to the closing mark. -/
theorem separatedRest_commas (hblank : Text.isBlank close = false) (hne : close ≠ ',')
    (h : List.Forall₂ (ReadsItem item close) ts as) {n : Nat} (hn : ts.length ≤ n) :
    separatedRest item (mark ',') n ((ts.flatMap fun t => ',' :: ' ' :: t) ++ close :: rest) =
      some (as, close :: rest) := by
  induction h generalizing n with
  | nil =>
      cases n with
      | zero => rfl
      | succ n => rw [List.flatMap_nil, List.nil_append, separatedRest, mark_of_ne hblank hne]
  | @cons t a ts as ht _ ih =>
      rw [List.length_cons] at hn
      obtain ⟨n, rfl⟩ : ∃ m, n = m + 1 := ⟨n - 1, by omega⟩
      have hrest := ih (n := n) (by omega)
      have hitem := ht.2 _ (goesOn_flatMap ts close rest)
      have hcomma : mark ',' (',' :: ' ' :: (t ++ ((ts.flatMap fun t => ',' :: ' ' :: t) ++
          close :: rest))) = some (',', t ++ ((ts.flatMap fun t => ',' :: ' ' :: t) ++
          close :: rest)) := by
        have hskip := ht.skipBlanks ((ts.flatMap fun t => ',' :: ' ' :: t) ++ close :: rest)
        rw [mark_self (by decide)]
        exact congrArg (fun cs => some (',', cs)) hskip
      simp only [List.flatMap_cons, List.cons_append, List.append_assoc, separatedRest, hcomma,
        hitem, map, hrest]

/-- The items behind the first one, with a comma and a blank in front of each, are as many
characters at least, and none of them is longer. -/
theorem length_le_flatMap (ts : List (List Char)) :
    ts.length ≤ (ts.flatMap fun t => ',' :: ' ' :: t).length ∧
      ∀ t ∈ ts, t.length ≤ (ts.flatMap fun t => ',' :: ' ' :: t).length := by
  induction ts with
  | nil => exact ⟨Nat.le_refl _, nofun⟩
  | cons t ts ih =>
      obtain ⟨hlength, hitems⟩ := ih
      simp only [List.flatMap_cons, List.length_append, List.length_cons]
      refine ⟨by omega, fun t' ht' => ?_⟩
      rcases List.mem_cons.mp ht' with rfl | ht'
      · omega
      · have := hitems t' ht'
        omega

/-- Items with commas between them are read up to the closing mark. -/
theorem separated_commas (hblank : Text.isBlank close = false) (hne : close ≠ ',')
    (hclose : item (close :: rest) = none) (h : List.Forall₂ (ReadsItem item close) ts as) :
    separated item (mark ',') (Text.skipBlanks (commas ts ++ close :: rest)) =
      some (as, close :: rest) := by
  cases h with
  | nil => rw [commas, List.nil_append, Text.skipBlanks_cons hblank, separated, hclose]
  | @cons t a ts as ht hts =>
      have hitem := ht.2 _ (goesOn_flatMap ts close rest)
      have hlength :
          ts.length ≤ ((ts.flatMap fun t => ',' :: ' ' :: t) ++ close :: rest).length := by
        have hle := (length_le_flatMap ts).1
        rw [List.length_append]
        omega
      rw [commas, List.append_assoc, ht.skipBlanks, separated, hitem]
      exact map_of_some (separatedRest_commas hblank hne hts hlength)

/-- An item is no longer than the list. -/
theorem length_le_commas (h : t ∈ ts) : t.length ≤ (commas ts).length := by
  cases ts with
  | nil => exact nomatch h
  | cons t' ts =>
      rw [commas, List.length_append]
      rcases List.mem_cons.mp h with rfl | h
      · exact Nat.le_add_right _ _
      · have hle := (length_le_flatMap ts).2 t h
        omega

end Lists

end WidgetFlow.Script
