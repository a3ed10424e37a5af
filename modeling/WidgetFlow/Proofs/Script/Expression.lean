import Mathlib.Data.List.Forall2
import WidgetFlow.Proofs.Script.Level

/-!
# Parsing undoes printing

An expression that is written with as few parentheses as possible parses as itself. A left operand
is followed by an operator of its own level, so its parser does not stop behind it. The binary
levels and the suffixes are therefore described by how far their folds have come: behind a left
operand the fold has come to that operand and goes on from there (`LeadsBinary`, `LeadsSuffix`).

A nested expression is shorter than the text around it, which is what bounds the layers of the
grammar that reading it takes.

## Main results

* `levelParser_descend`: what the parser of a level reads is read by the parsers of looser levels.
* `Readable.readAt`: an expression is read at every level, in parentheses where its own is looser.
* `readable_of_isPlain`: every plain expression is read, by induction over the tree.
* `parseExpression_text`: parsing the text of a plain expression gives the expression.
-/

namespace WidgetFlow.Script

open WidgetFlow.Parser

variable {c : Char} {cs rest t : List Char} {expr : Parser Expr} {e : Expr} {d p q : Nat}

/-! ### From tighter levels to looser ones -/

/-- A text starts with a character that is neither blank nor a prefix operator. -/
def Unsigned (t : List Char) : Prop :=
  ∃ c tail, t = c :: tail ∧ Text.isBlank c = false ∧ c ≠ '!' ∧ c ≠ '-'

/-- A text that is unsigned stays so with more behind it. -/
theorem Unsigned.append (ht : Unsigned t) (t' : List Char) : Unsigned (t ++ t') := by
  obtain ⟨c, tail, rfl, hc⟩ := ht
  exact ⟨c, tail ++ t', rfl, hc⟩

/-- An atom is read where there may be suffixes. -/
theorem suffixed_of_atom (h : atom expr cs = some (e, Text.skipBlanks rest))
    (hends : Ends 8 rest) : levelParser expr 8 cs = some (e, Text.skipBlanks rest) :=
  (ComesTo.start h).stop (suffix_of_ne (hends.suffix (Nat.le_refl 8)))

/-- What is read without a prefix operator is read where there may be some. -/
theorem unary_of_suffixed (h : levelParser expr 8 cs = some (e, rest)) (ht : Unsigned cs) :
    levelParser expr 7 cs = some (e, rest) := by
  obtain ⟨c, tail, rfl, hblank, hnot, hneg⟩ := ht
  rwa [levelParser, unary_of_ne hblank hnot hneg]

/-- A first operand is read where there may be an operator. -/
theorem binary_of_operand (h : levelParser expr (p + 1) cs = some (e, Text.skipBlanks rest))
    (hends : Ends p rest) (hlow : 1 ≤ p) (hhigh : p ≤ 6) :
    levelParser expr p cs = some (e, Text.skipBlanks rest) := by
  rw [levelParser_binary expr hlow hhigh]
  refine (ComesTo.start h).stop (andThen_of_none ?_)
  rw [spaced, Text.skipBlanks_skipBlanks, hends.op p (Nat.le_refl p)]

/-- What is read without branches is read where there may be some. -/
theorem cond_of_disjunction (h : levelParser expr 1 cs = some (e, Text.skipBlanks rest))
    (hends : Ends 0 rest) : levelParser expr 0 cs = some (e, Text.skipBlanks rest) := by
  have htest : disjunction expr cs = some (e, Text.skipBlanks rest) := h
  have hmark : mark '?' (Text.skipBlanks rest) = none := by
    rw [mark, spaced, Text.skipBlanks_skipBlanks]
    cases hrest : Text.skipBlanks rest with
    | nil => rfl
    | cons c tail =>
        have hne : c ≠ '?' := hends.cond rfl c (by rw [hrest]; rfl)
        rw [char, satisfy, if_neg (by simpa using hne)]
  have hbranches : branches expr (Text.skipBlanks rest) = none :=
    andThen_of_none (andThen_of_none (andThen_of_none hmark))
  rw [levelParser, expressionOver, andThen_of_some htest, map, opt, hbranches]

/-- What the parser of a level reads is read by the parsers of all looser levels. -/
theorem levelParser_descend (h : levelParser expr q cs = some (e, Text.skipBlanks rest))
    (hends : Ends p rest) (hpq : p ≤ q) (hq : q ≤ 8) (ht : q = 8 → Unsigned cs) :
    levelParser expr p cs = some (e, Text.skipBlanks rest) := by
  induction q with
  | zero =>
      obtain rfl : p = 0 := by omega
      exact h
  | succ q ih =>
      rcases Nat.lt_or_ge q p with hlt | hle
      · obtain rfl : p = q + 1 := by omega
        exact h
      · refine ih ?_ hle (by omega) (by omega)
        have hq' := hends.mono hle
        rcases Nat.eq_zero_or_pos q with rfl | hlow
        · exact cond_of_disjunction h hq'
        · rcases Nat.lt_or_ge q 7 with hhigh | hhigh
          · exact binary_of_operand h hq' hlow (by omega)
          · obtain rfl : q = 7 := by omega
            exact unary_of_suffixed h (ht rfl)

/-! ### Reading at a level -/

/-- The parser of a level reads an expression from a text if the level ends behind it. -/
def ReadAt (expr : Parser Expr) (p : Nat) (e : Expr) (t : List Char) : Prop :=
  ∀ rest, Ends p rest → levelParser expr p (t ++ rest) = some (e, Text.skipBlanks rest)

/-- Behind a text the fold of a binary level has come to an expression, if the tighter levels end
there. -/
def LeadsBinary (expr : Parser Expr) (p : Nat) (e : Expr) (t : List Char) : Prop :=
  ∀ rest, Ends (p + 1) rest →
    ComesTo (rightSide expr p) joined (levelParser expr p (t ++ rest)) e (Text.skipBlanks rest)

/-- Behind a text the fold of the suffixes has come to an expression, if no name goes on there. -/
def LeadsSuffix (expr : Parser Expr) (e : Expr) (t : List Char) : Prop :=
  ∀ rest, Ends 9 rest →
    ComesTo (suffix expr) Suffix.apply (suffixed expr (t ++ rest)) e (Text.skipBlanks rest)

/-- A binary level ends where none of its operators follows. -/
theorem LeadsBinary.readAt (h : LeadsBinary expr p e t) : ReadAt expr p e t := by
  intro rest hends
  refine (h rest (hends.mono (Nat.le_succ p))).stop (andThen_of_none ?_)
  rw [spaced, Text.skipBlanks_skipBlanks, hends.op p (Nat.le_refl p)]

/-- The suffixes end where none follows. -/
theorem LeadsSuffix.readAt (h : LeadsSuffix expr e t) : ReadAt expr 8 e t := by
  intro rest hends
  exact (h rest (hends.mono (by omega))).stop (suffix_of_ne (hends.suffix (Nat.le_refl 8)))

/-- What a tighter level reads is a first operand. -/
theorem ReadAt.leadsBinary (h : ReadAt expr (p + 1) e t) (hlow : 1 ≤ p) (hhigh : p ≤ 6) :
    LeadsBinary expr p e t := by
  intro rest hends
  rw [levelParser_binary expr hlow hhigh]
  exact .start (h rest hends)

/-- What is read at a level is read at all looser levels. -/
theorem ReadAt.descend (h : ReadAt expr q e t) (hpq : p ≤ q) (hq : q ≤ 8)
    (ht : q = 8 → Unsigned t) : ReadAt expr p e t := by
  intro rest hends
  exact levelParser_descend (h rest (hends.mono hpq)) hends hpq hq fun h8 => (ht h8).append rest

/-! ### Reading expressions -/

/-- No level is tighter than what is written without any operator. -/
theorem level_le (e : Expr) : e.level ≤ 8 := by
  cases e with
  | binary op left right => exact Nat.le_trans (level_bounds op).2 (by decide)
  | cond test yes no => exact Nat.zero_le 8
  | unary op operand => exact Nat.le_succ 7
  | _ => exact Nat.le_refl 8

/-- An expression is read at its own level, in as many layers as its text is long, and the fold of
its level comes to it. -/
structure Readable (e : Expr) : Prop where
  head : ∃ c tail, written e = c :: tail ∧ Text.isBlank c = false ∧
    (e.level = 8 → c ≠ '!' ∧ c ≠ '-')
  readAt : ∀ d, (written e).length ≤ d → ReadAt (expressionTo d) e.level e (written e)
  leadsBinary : 1 ≤ e.level → e.level ≤ 6 → ∀ d, (written e).length ≤ d →
    LeadsBinary (expressionTo d) e.level e (written e)
  leadsSuffix : e.level = 8 → ∀ d, (written e).length ≤ d →
    LeadsSuffix (expressionTo d) e (written e)

namespace Readable

/-- An expression at a binary level is readable if the fold of the level comes to it. -/
theorem of_binary (hlow : 1 ≤ e.level) (hhigh : e.level ≤ 6)
    (head : ∃ c tail, written e = c :: tail ∧ Text.isBlank c = false)
    (h : ∀ d, (written e).length ≤ d → LeadsBinary (expressionTo d) e.level e (written e)) :
    Readable e := by
  obtain ⟨c, tail, heq, hblank⟩ := head
  exact ⟨⟨c, tail, heq, hblank, fun h8 => by omega⟩, fun d hd => (h d hd).readAt,
    fun _ _ => h, fun h8 => by omega⟩

/-- An expression without operators is readable if the fold of the suffixes comes to it. -/
theorem of_suffix (hlevel : e.level = 8) (head : Unsigned (written e))
    (h : ∀ d, (written e).length ≤ d → LeadsSuffix (expressionTo d) e (written e)) :
    Readable e := by
  obtain ⟨c, tail, heq, hblank, hsigns⟩ := head
  refine ⟨⟨c, tail, heq, hblank, fun _ => hsigns⟩, fun d hd => ?_, fun _ h6 => by omega,
    fun _ => h⟩
  rw [hlevel]
  exact (h d hd).readAt

/-- An expression is readable if its text is an atom. -/
theorem of_atom (hlevel : e.level = 8) (head : Unsigned (written e))
    (h : ∀ d, (written e).length ≤ d → ∀ rest, Ends 9 rest →
      atom (expressionTo d) (written e ++ rest) = some (e, Text.skipBlanks rest)) :
    Readable e :=
  of_suffix hlevel head fun d hd rest hends => .start (h d hd rest hends)

variable (h : Readable e)

include h

/-- A blank in front of an expression does not count. -/
theorem skipBlanks_append (rest : List Char) :
    Text.skipBlanks (written e ++ rest) = written e ++ rest := by
  obtain ⟨c, tail, heq, hblank, -⟩ := h.head
  rw [heq, List.cons_append, Text.skipBlanks_cons hblank]

/-- A text that starts an atom has no prefix operator. -/
theorem unsigned (hlevel : e.level = 8) : Unsigned (written e) := by
  obtain ⟨c, tail, heq, hblank, hsigns⟩ := h.head
  exact ⟨c, tail, heq, hblank, hsigns hlevel⟩

/-- An expression is read as a nested one. -/
theorem nested (hd : (written e).length < d) (hends : Ends 0 rest) :
    expressionTo d (written e ++ rest) = some (e, Text.skipBlanks rest) := by
  obtain ⟨d, rfl⟩ : ∃ n, d = n + 1 := ⟨d - 1, by omega⟩
  have hread := (h.readAt d (by omega)).descend (Nat.zero_le _) (level_le e) h.unsigned
  exact hread rest hends

/-- An expression in parentheses is read as an atom. -/
theorem paren (hd : (written e).length < d) :
    LeadsSuffix (expressionTo d) e ('(' :: written e ++ [')']) := by
  intro rest _
  have hinner : expressionTo d (Text.skipBlanks (written e ++ ')' :: rest)) =
      some (e, ')' :: rest) := by
    rw [h.skipBlanks_append, h.nested hd (.closing (by decide) rest),
      Text.skipBlanks_cons (by decide)]
  refine .start ?_
  simpa using atom_paren hinner

/-- Where a level is asked for, an expression starts with no blank, and with no prefix operator if
no operator is allowed there. -/
theorem head_writtenAt : ∃ c tail, e.writtenAt p = c :: tail ∧ Text.isBlank c = false ∧
    (8 ≤ p → c ≠ '!' ∧ c ≠ '-') := by
  rw [Expr.writtenAt, grouped]
  split
  · exact ⟨'(', written e ++ [')'], rfl, by decide, fun _ => by decide⟩
  · next hle =>
      obtain ⟨c, tail, heq, hblank, hsigns⟩ := h.head
      have := level_le e
      exact ⟨c, tail, heq, hblank, fun hp => hsigns (by omega)⟩

/-- A blank in front of an operand does not count. -/
theorem skipBlanks_writtenAt (rest : List Char) :
    Text.skipBlanks (e.writtenAt p ++ rest) = e.writtenAt p ++ rest := by
  obtain ⟨c, tail, heq, hblank, -⟩ := h.head_writtenAt (p := p)
  rw [heq, List.cons_append, Text.skipBlanks_cons hblank]

/-- An expression is read wherever a level is asked for. -/
theorem readAt_writtenAt (hp : p ≤ 8) (hd : (e.writtenAt p).length ≤ d) :
    ReadAt (expressionTo d) p e (e.writtenAt p) := by
  rw [Expr.writtenAt, grouped] at hd ⊢
  split at hd
  · next hlt =>
      have hparen := h.paren (d := d) (by simp at hd; omega)
      rw [if_pos hlt]
      exact hparen.readAt.descend hp (Nat.le_refl 8) fun _ =>
        ⟨'(', written e ++ [')'], rfl, by decide, by decide, by decide⟩
  · next hle =>
      rw [if_neg hle]
      exact (h.readAt d hd).descend (by omega) (level_le e) h.unsigned

/-- Behind a left operand the fold of its level has come to it. -/
theorem leadsBinary_writtenAt (hlow : 1 ≤ p) (hhigh : p ≤ 6) (hd : (e.writtenAt p).length ≤ d) :
    LeadsBinary (expressionTo d) p e (e.writtenAt p) := by
  rw [Expr.writtenAt, grouped] at hd ⊢
  split at hd
  · next hlt =>
      have hparen := h.paren (d := d) (by simp at hd; omega)
      rw [if_pos hlt]
      refine ReadAt.leadsBinary (hparen.readAt.descend (by omega) (Nat.le_refl 8) fun _ => ?_)
        hlow hhigh
      exact ⟨'(', written e ++ [')'], rfl, by decide, by decide, by decide⟩
  · next hle =>
      rw [if_neg hle]
      rcases Nat.lt_or_ge p e.level with hlt | hge
      · exact ((h.readAt d hd).descend hlt (level_le e) h.unsigned).leadsBinary hlow hhigh
      · obtain rfl : p = e.level := by omega
        exact h.leadsBinary hlow hhigh d hd

/-- Behind what has a suffix the fold of the suffixes has come to it. -/
theorem leadsSuffix_writtenAt (hd : (e.writtenAt 8).length ≤ d) :
    LeadsSuffix (expressionTo d) e (e.writtenAt 8) := by
  rw [Expr.writtenAt, grouped] at hd ⊢
  split at hd
  · next hlt =>
      rw [if_pos hlt]
      exact h.paren (by simp at hd; omega)
  · next hle =>
      rw [if_neg hle]
      have := level_le e
      exact h.leadsSuffix (by omega) d hd

end Readable

/-! ### Lists -/

/-- The texts of the items of a list. -/
theorem itemsWritten_eq_map (items : List Expr) : itemsWritten items = items.map written := by
  induction items with
  | nil => rfl
  | cons e items ih => rw [itemsWritten, List.map_cons, ih]

/-- The texts of the entries of a record. -/
theorem entriesWritten_eq_map (entries : List (String × Expr)) :
    entriesWritten entries =
      entries.map fun x => inQuotes x.1 ++ ':' :: ' ' :: written x.2 := by
  induction entries with
  | nil => rfl
  | cons entry entries ih =>
      obtain ⟨key, e⟩ := entry
      rw [entriesWritten, List.map_cons, ih]

/-- The items of a list are read up to the closing mark. -/
theorem expressions_commas {items : List Expr} {close : Char} (h : ∀ e ∈ items, Readable e)
    (hclose : close ∈ [']', ')']) (hd : (commas (itemsWritten items)).length < d) :
    expressions (expressionTo d)
      (Text.skipBlanks (commas (itemsWritten items) ++ close :: rest)) =
        some (items, close :: rest) := by
  have hclosers : ∀ c ∈ [']', ')'], Text.isBlank c = false ∧ c ≠ ',' ∧ isMark c = true ∧
      c ∉ openers ∧ c ∈ [')', ']', '\x7d', ',', ':'] :=
    List.all_iff_forall_prop.mp (by decide)
  obtain ⟨hblank, hne, hmark, hopen, hends⟩ := hclosers close hclose
  have hcomma : Text.isBlank ',' = false ∧ ',' ∈ [')', ']', '\x7d', ',', ':'] := by decide
  have hbehind : ∀ c ∈ [',', close], Text.isBlank c = false ∧ c ∈ [')', ']', '\x7d', ',', ':'] :=
    List.forall_mem_cons.mpr ⟨hcomma, List.forall_mem_singleton.mpr ⟨hblank, hends⟩⟩
  refine separated_commas hblank hne (expressionTo_mark hmark hopen d rest) ?_
  rw [itemsWritten_eq_map] at hd ⊢
  refine List.forall₂_map_left_iff.mpr (List.forall₂_same.mpr fun e he => ?_)
  obtain ⟨c, tail, heq, hc, -⟩ := (h e he).head
  have hlength := length_le_commas (List.mem_map_of_mem (f := written) he)
  refine ⟨⟨c, tail, heq, hc⟩, ?_⟩
  rintro _ ⟨c', rest, rfl, hc'⟩
  obtain ⟨hblank', hends⟩ := hbehind c' hc'
  rw [(h e he).nested (Nat.lt_of_le_of_lt hlength hd) (.closing hends rest),
    Text.skipBlanks_cons hblank']

/-- A key is read up to the colon behind it. -/
theorem entryKey_inQuotes (key : String) (cs : List Char) :
    skipRight entryKey (mark ':') (inQuotes key ++ ':' :: cs) =
      some (key, Text.skipBlanks cs) := by
  have hname : anyName (inQuotes key ++ ':' :: cs) = none :=
    anyName_of_head (by rintro d hd; rw [← Option.some.inj hd]; decide)
  have hskip : Text.skipBlanks (inQuotes key ++ ':' :: cs) = inQuotes key ++ ':' :: cs :=
    Text.skipBlanks_cons (by decide)
  refine skipRight_eq_some.mpr ⟨':' :: cs, ':', spaced_eq_some.mpr ⟨':' :: cs, ?_, ?_⟩, ?_⟩
  · rw [hskip, orElse_of_none hname, stringLiteral_inQuotes]
  · rw [Text.skipBlanks_cons (by decide)]
  · exact mark_self (by decide) cs

/-- The entries of a record are read up to the closing mark. -/
theorem entries_commas {entries : List (String × Expr)} (h : ∀ x ∈ entries, Readable x.2)
    (hd : (commas (entriesWritten entries)).length < d) :
    separated (entry (expressionTo d)) (mark ',')
      (Text.skipBlanks (commas (entriesWritten entries) ++ '\x7d' :: rest)) =
        some (entries, '\x7d' :: rest) := by
  have hnone : entry (expressionTo d) ('\x7d' :: rest) = none := by
    have hname : anyName ('\x7d' :: rest) = none :=
      anyName_of_head (by rintro d hd; rw [← Option.some.inj hd]; decide)
    have hkey : entryKey ('\x7d' :: rest) = none := by
      rw [entryKey, spaced, Text.skipBlanks_cons (by decide), orElse_of_none hname,
        stringLiteral_of_ne (by decide) (by decide)]
    rw [entry, pair, skipRight, andThen_of_none (andThen_of_none hkey)]
  refine separated_commas (by decide) (by decide) hnone ?_
  rw [entriesWritten_eq_map] at hd ⊢
  refine List.forall₂_map_left_iff.mpr (List.forall₂_same.mpr fun x hx => ?_)
  obtain ⟨key, e⟩ := x
  have hlength := length_le_commas
    (List.mem_map_of_mem (f := fun x => inQuotes x.1 ++ ':' :: ' ' :: written x.2) hx)
  simp only [List.length_append, List.length_cons] at hlength
  refine ⟨⟨'"', _, rfl, by decide⟩, ?_⟩
  rintro _ ⟨c, rest, rfl, hc⟩
  have hbehind : ∀ c ∈ [',', '\x7d'], Text.isBlank c = false ∧ c ∈ [')', ']', '\x7d', ',', ':'] :=
    List.all_iff_forall_prop.mp (by decide)
  obtain ⟨hblank, hends⟩ := hbehind c hc
  have he : Readable e := h (key, e) hx
  have hread := he.nested (d := d) (by omega) (Ends.closing hends rest)
  rw [Text.skipBlanks_cons hblank] at hread
  simp only [List.append_assoc, List.cons_append]
  refine pair_eq_some.mpr ⟨_, entryKey_inQuotes key _, ?_⟩
  change expressionTo d (Text.skipBlanks (written e ++ c :: rest)) = _
  rw [he.skipBlanks_append, hread]

/-! ### Every expression -/

/-- The text of a literal. -/
theorem unsigned_literalText {v : Value} (hv : isWordOrString v = true) :
    Unsigned (literalText v) := by
  match v, hv with
  | .null, _ => exact ⟨'n', _, rfl, by decide, by decide, by decide⟩
  | .bool true, _ => exact ⟨'t', _, rfl, by decide, by decide, by decide⟩
  | .bool false, _ => exact ⟨'f', _, rfl, by decide, by decide, by decide⟩
  | .str s, _ => exact ⟨'"', _, rfl, by decide, by decide, by decide⟩

/-- The text of a name. -/
theorem unsigned_name {s : String} (hs : isAnyName s = true) : Unsigned s.toList := by
  obtain ⟨c, w, heq, hc, -⟩ := exists_of_isAnyName hs
  have hsigns : ['!', '-'].any isNameStart = false := by decide
  have hne : ∀ d ∈ ['!', '-'], c ≠ d := by
    rintro d hd rfl
    exact List.any_eq_false.mp hsigns c hd hc
  exact ⟨c, w, heq, not_blank_of_isNameStart hc, hne '!' (by decide), hne '-' (by decide)⟩

namespace Readable

/-- What has a suffix starts as it does without the suffix. -/
theorem unsigned_writtenAt (h : Readable e) : Unsigned (e.writtenAt 8) := by
  obtain ⟨c, tail, heq, hblank, hsigns⟩ := h.head_writtenAt (p := 8)
  exact ⟨c, tail, heq, hblank, hsigns (Nat.le_refl 8)⟩

/-- A literal is readable. -/
theorem literal {v : Value} (hv : isWordOrString v = true) : Readable (.literal v) := by
  refine of_atom rfl ?_ fun d _ rest hends => ?_
  · rw [written]
    exact unsigned_literalText hv
  · obtain ⟨mid, hread, hskip⟩ := literal_literalText hv hends.name
    obtain ⟨c, tail, heq, hblank, -⟩ := unsigned_literalText hv
    rw [written, ← hskip]
    refine atom_literal hread ?_
    rw [heq, List.cons_append, Text.skipBlanks_cons hblank]

/-- A list is readable if its items are. -/
theorem array {items : List Expr} (h : ∀ e ∈ items, Readable e) : Readable (.array items) := by
  refine of_atom rfl ?_ fun d hd rest _ => ?_
  · rw [written]
    exact ⟨'[', _, rfl, by decide, by decide, by decide⟩
  · rw [written] at hd ⊢
    simp only [List.cons_append, List.length_cons, List.length_append] at hd
    have hitems : expressions (expressionTo d) (Text.skipBlanks (commas (itemsWritten items) ++
        ']' :: rest)) = _ := expressions_commas h (by decide) (by omega)
    simpa using atom_array hitems

/-- A record is readable if its entries are. -/
theorem object {entries : List (String × Expr)} (h : ∀ x ∈ entries, Readable x.2) :
    Readable (.object entries) := by
  refine of_atom rfl ?_ fun d hd rest _ => ?_
  · rw [written]
    exact ⟨'\x7b', _, rfl, by decide, by decide, by decide⟩
  · rw [written] at hd ⊢
    simp only [List.cons_append, List.length_cons, List.length_append] at hd
    have hentries : separated (entry (expressionTo d)) (mark ',')
        (Text.skipBlanks (commas (entriesWritten entries) ++ '\x7d' :: rest)) = _ :=
      entries_commas h (by omega)
    simpa using atom_object hentries

/-- A variable is readable. -/
theorem var {s : String} (hs : isAnyName s = true) (hfree : s ∉ reservedWords) :
    Readable (.var s) := by
  have hwords : ∀ word ∈ literalWords, word ∈ reservedWords := by decide
  refine of_atom rfl ?_ fun d _ rest hends => ?_
  · rw [written]
    exact unsigned_name hs
  · rw [written, atom_name hs (fun h => hfree (hwords s h)) hends.name, if_neg hfree]

/-- What has one more suffix is readable, if the suffix is read where it is written. -/
theorem suffixed {base : Expr} {s : Suffix} {t : List Char} (hbase : Readable base)
    (hlevel : (s.apply base).level = 8) (hc : c ∈ ['.', '[', '('])
    (hwritten : written (s.apply base) = base.writtenAt 8 ++ c :: t)
    (hread : ∀ d rest, t.length ≤ d → Ends 9 rest →
      suffix (expressionTo d) (c :: (t ++ rest)) = some (s, Text.skipBlanks rest)) :
    Readable (s.apply base) := by
  have hmarks : ∀ c ∈ ['.', '[', '('], isNamePart c = false ∧ Text.isBlank c = false :=
    List.all_iff_forall_prop.mp (by decide)
  obtain ⟨hname, hblank⟩ := hmarks c hc
  refine of_suffix hlevel (hwritten ▸ hbase.unsigned_writtenAt.append _) fun d hd rest hends => ?_
  rw [hwritten, List.length_append, List.length_cons] at hd
  have hcome := hbase.leadsSuffix_writtenAt (d := d) (by omega) (c :: (t ++ rest))
    (.tight hname hblank _)
  rw [Text.skipBlanks_cons hblank] at hcome
  have hlength := Text.length_skipBlanks_le rest
  rw [hwritten, List.append_assoc, List.cons_append]
  refine hcome.step (hread d rest (by omega) hends) ?_
  rw [List.length_cons, List.length_append]
  omega

/-- A member is readable. -/
theorem member {base : Expr} {s : String} (hbase : Readable base) (hs : isAnyName s = true) :
    Readable (.member base s) :=
  suffixed (s := .member s) (c := '.') hbase rfl (by decide) (by rw [Suffix.apply, written]; rfl)
    fun _ _ _ hends => suffix_member hs hends.name

/-- An item at an index is readable. -/
theorem index {base i : Expr} (hbase : Readable base) (hi : Readable i) :
    Readable (.index base i) := by
  refine suffixed (s := .index i) (c := '[') (t := written i ++ [']']) hbase rfl (by decide)
    (by rw [Suffix.apply, written, List.append_assoc]; rfl) fun d rest hd _ => ?_
  rw [List.append_assoc]
  refine suffix_index ?_
  rw [List.length_append, List.length_singleton] at hd
  rw [hi.skipBlanks_append, List.singleton_append, hi.nested hd (.closing (by decide) rest),
    Text.skipBlanks_cons (by decide)]

/-- A call is readable. -/
theorem call {callee : Expr} {args : List Expr} (hcallee : Readable callee)
    (hargs : ∀ e ∈ args, Readable e) : Readable (.call callee args) := by
  refine suffixed (s := .call args) (c := '(') (t := commas (itemsWritten args) ++ [')'])
    hcallee rfl (by decide) (by rw [Suffix.apply, written, List.append_assoc]; rfl)
    fun d rest hd _ => ?_
  rw [List.append_assoc]
  rw [List.length_append, List.length_singleton] at hd
  exact suffix_call (expressions_commas hargs (by decide) hd)

/-- A prefix operator with its operand is readable. -/
theorem unary (op : UnaryOp) {operand : Expr} (h : Readable operand) :
    Readable (.unary op operand) := by
  have hwritten : written (.unary op operand) = op.sign :: operand.writtenAt 7 := by
    rw [written]
    rfl
  refine ⟨⟨op.sign, _, hwritten, ?_, nofun⟩, fun d hd rest hends => ?_, fun _ h6 => ?_, nofun⟩
  · cases op <;> decide
  · rw [hwritten, List.length_cons] at hd
    have hread := h.readAt_writtenAt (p := 7) (d := d) (by decide) (by omega) rest hends
    rw [hwritten, List.cons_append]
    exact (unary_sign op (h.skipBlanks_writtenAt rest)).trans (map_of_some hread)
  · exact absurd h6 (by decide : ¬ 7 ≤ 6)

/-- An operator and its right operand are read where they are written. -/
theorem rightSide_sign (op : BinaryOp) {right : Expr} (h : Readable right)
    (hd : (right.writtenAt (op.level + 1)).length ≤ d) (hends : Ends (op.level + 1) rest) :
    rightSide (expressionTo d) op.level
      (op.sign.toList ++ ' ' :: (right.writtenAt (op.level + 1) ++ rest)) =
        some ((op, right), Text.skipBlanks rest) := by
  have hlevel := (level_bounds op).2
  have hskip : ∀ cs, Text.skipBlanks (op.sign.toList ++ cs) = op.sign.toList ++ cs := by
    intro cs
    cases op <;> rfl
  refine pair_eq_some.mpr ⟨right.writtenAt (op.level + 1) ++ rest, ?_, ?_⟩
  · refine spaced_eq_some.mpr ⟨' ' :: (right.writtenAt (op.level + 1) ++ rest), ?_, ?_⟩
    · rw [hskip, levelOp_sign]
    · exact (h.skipBlanks_writtenAt rest).symm
  · exact h.readAt_writtenAt (by omega) hd rest hends

/-- A binary operator with its operands is readable. -/
theorem binary (op : BinaryOp) {left right : Expr} (hleft : Readable left)
    (hright : Readable right) : Readable (.binary op left right) := by
  obtain ⟨hlow, hhigh⟩ := level_bounds op
  have hwritten : written (.binary op left right) = left.writtenAt op.level ++
      ' ' :: op.sign.toList ++ ' ' :: right.writtenAt (op.level + 1) := by
    rw [written]
    rfl
  refine of_binary hlow hhigh ?_ fun d hd rest hends => ?_
  · obtain ⟨c, tail, heq, hblank, -⟩ := hleft.head_writtenAt (p := op.level)
    refine ⟨c, tail ++ ' ' :: op.sign.toList ++ ' ' :: right.writtenAt (op.level + 1), ?_, hblank⟩
    rw [hwritten, heq]
    rfl
  · simp only [hwritten, List.length_append, List.length_cons] at hd
    have hcome := hleft.leadsBinary_writtenAt (d := d) hlow hhigh (by omega)
      (' ' :: (op.sign.toList ++ ' ' :: (right.writtenAt (op.level + 1) ++ rest)))
      (Ends.sign op _).blank
    have hskip : ∀ cs, Text.skipBlanks (' ' :: (op.sign.toList ++ cs)) =
        op.sign.toList ++ cs := by
      intro cs
      cases op <;> rfl
    have hlength := Text.length_skipBlanks_le rest
    rw [hskip] at hcome
    have hstep := hcome.step (rightSide_sign op hright (d := d) (by omega) hends) (by
      simp only [List.length_append, List.length_cons]
      omega)
    simpa [hwritten, Expr.level, joined] using hstep

/-- The branches of a conditional expression are read where they are written. -/
theorem branches_written {yes no : Expr} (hyes : Readable yes) (hno : Readable no)
    (hd : (written yes).length < d ∧ (written no).length < d) (hends : Ends 0 rest) :
    branches (expressionTo d)
      ('?' :: ' ' :: (written yes ++ ' ' :: ':' :: ' ' :: (written no ++ rest))) =
        some ((yes, no), Text.skipBlanks rest) := by
  have hquestion : mark '?' ('?' :: ' ' :: (written yes ++ ' ' :: ':' :: ' ' ::
      (written no ++ rest))) = some ('?', written yes ++ ' ' :: ':' :: ' ' ::
      (written no ++ rest)) := by
    rw [mark_self (by decide)]
    exact congrArg (fun cs => some ('?', cs)) (hyes.skipBlanks_append _)
  have hfirst : expressionTo d (written yes ++ ' ' :: ':' :: ' ' :: (written no ++ rest)) =
      some (yes, ':' :: ' ' :: (written no ++ rest)) :=
    hyes.nested hd.1 (Ends.closing (by decide) _).blank
  have hcolon : mark ':' (':' :: ' ' :: (written no ++ rest)) = some (':', written no ++ rest) := by
    rw [mark_self (by decide)]
    exact congrArg (fun cs => some (':', cs)) (hno.skipBlanks_append rest)
  exact pair_eq_some.mpr ⟨_, skipRight_eq_some.mpr ⟨_, ':',
    skipLeft_eq_some.mpr ⟨'?', _, hquestion, hfirst⟩, hcolon⟩, hno.nested hd.2 hends⟩

/-- A conditional expression is readable. -/
theorem cond {test yes no : Expr} (htest : Readable test) (hyes : Readable yes)
    (hno : Readable no) : Readable (.cond test yes no) := by
  have hwritten : written (.cond test yes no) = test.writtenAt 1 ++
      ' ' :: '?' :: ' ' :: written yes ++ ' ' :: ':' :: ' ' :: written no := by
    rw [written]
    rfl
  refine ⟨?_, fun d hd rest hends => ?_, fun h1 => ?_, nofun⟩
  · obtain ⟨c, tail, heq, hblank, -⟩ := htest.head_writtenAt (p := 1)
    refine ⟨c, tail ++ ' ' :: '?' :: ' ' :: written yes ++ ' ' :: ':' :: ' ' :: written no, ?_,
      hblank, nofun⟩
    rw [hwritten, heq]
    rfl
  · simp only [hwritten, List.length_append, List.length_cons] at hd
    have hfirst : disjunction (expressionTo d) _ = _ :=
      htest.readAt_writtenAt (p := 1) (d := d) (by decide) (by omega)
        (' ' :: '?' :: ' ' :: (written yes ++ ' ' :: ':' :: ' ' :: (written no ++ rest)))
        (Ends.question _).blank
    have hbranches : branches (expressionTo d) (Text.skipBlanks (' ' :: '?' :: ' ' ::
        (written yes ++ ' ' :: ':' :: ' ' :: (written no ++ rest)))) = _ :=
      branches_written hyes hno ⟨by omega, by omega⟩ hends
    have hread : expressionOver (expressionTo d) (test.writtenAt 1 ++ ' ' :: '?' :: ' ' ::
        (written yes ++ ' ' :: ':' :: ' ' :: (written no ++ rest))) =
          some (.cond test yes no, Text.skipBlanks rest) := by
      rw [expressionOver, andThen_of_some hfirst, map, opt, hbranches]
    simpa [hwritten, Expr.level, levelParser] using hread
  · exact absurd h1 (by decide : ¬ 1 ≤ 0)

end Readable

mutual
/-- A plain expression is readable. -/
theorem readable_of_isPlain : ∀ {e : Expr}, e.isPlain = true → Readable e
  | .literal v, h => .literal h
  | .array items, h => .array (readable_items h)
  | .object entries, h => .object (readable_entries h)
  | .var name, h => by
      rw [Expr.isPlain, Bool.and_eq_true, Bool.not_eq_true'] at h
      exact .var h.1 (by simpa using h.2)
  | .member base name, h => by
      rw [Expr.isPlain, Bool.and_eq_true] at h
      exact .member (readable_of_isPlain h.1) h.2
  | .index base i, h => by
      rw [Expr.isPlain, Bool.and_eq_true] at h
      exact .index (readable_of_isPlain h.1) (readable_of_isPlain h.2)
  | .call callee args, h => by
      rw [Expr.isPlain, Bool.and_eq_true] at h
      exact .call (readable_of_isPlain h.1) (readable_items h.2)
  | .unary op operand, h => .unary op (readable_of_isPlain h)
  | .binary op left right, h => by
      rw [Expr.isPlain, Bool.and_eq_true] at h
      exact .binary op (readable_of_isPlain h.1) (readable_of_isPlain h.2)
  | .cond test yes no, h => by
      simp only [Expr.isPlain, Bool.and_eq_true] at h
      exact .cond (readable_of_isPlain h.1.1) (readable_of_isPlain h.1.2)
        (readable_of_isPlain h.2)
/-- The items of a plain list are readable. -/
theorem readable_items : ∀ {items : List Expr}, itemsPlain items = true →
    ∀ e ∈ items, Readable e
  | [], _ => nofun
  | e :: rest, h => by
      rw [itemsPlain, Bool.and_eq_true] at h
      exact List.forall_mem_cons.mpr ⟨readable_of_isPlain h.1, readable_items h.2⟩
/-- The entries of a plain record are readable. -/
theorem readable_entries : ∀ {entries : List (String × Expr)}, entriesPlain entries = true →
    ∀ x ∈ entries, Readable x.2
  | [], _ => nofun
  | (key, e) :: rest, h => by
      rw [entriesPlain, Bool.and_eq_true] at h
      exact List.forall_mem_cons.mpr ⟨readable_of_isPlain h.1, readable_entries h.2⟩
end

/-- Parsing the text of a plain expression gives the expression. -/
theorem parseExpression_text (e : Expr) (h : e.isPlain = true) :
    parseExpression e.text = some e := by
  have hread := (readable_of_isPlain h).nested (d := (written e).length + 1) (by omega) Ends.nil
  have hskip := (readable_of_isPlain h).skipBlanks_append []
  rw [List.append_nil] at hread hskip
  rw [parseExpression, readWhole, blankComments_text h, run_eq_some]
  refine spaced_eq_some.mpr ⟨[], ?_, rfl⟩
  rw [hskip, expression, hread]
  rfl

/-- Parentheses around a looser operand and around a right operand of the same level are kept, the
escapes of a string are undone, and two slashes in a string start no comment. -/
theorem parseExpression_text_nested :
    Expr.text (.cond
      (.binary .and (.binary .or (.var "a") (.var "b")) (.unary .not (.member (.var "c") "if")))
      (.object [("k\"", .array [.literal .null, .literal (.str "// \\")])])
      (.call (.member (.binary .sub (.var "x") (.binary .sub (.var "y") (.var "z"))) "f")
        [.literal (.bool true), .array []])) =
      "(a || b) && !c.if ? \x7b\"k\\\"\": [null, \"// \\\\\"]\x7d : (x - (y - z)).f(true, [])" ∧
    parseExpression
      "(a || b) && !c.if ? \x7b\"k\\\"\": [null, \"// \\\\\"]\x7d : (x - (y - z)).f(true, [])" =
      some (.cond
        (.binary .and (.binary .or (.var "a") (.var "b")) (.unary .not (.member (.var "c") "if")))
        (.object [("k\"", .array [.literal .null, .literal (.str "// \\")])])
        (.call (.member (.binary .sub (.var "x") (.binary .sub (.var "y") (.var "z"))) "f")
          [.literal (.bool true), .array []])) := by
  have htext : Expr.text (.cond
      (.binary .and (.binary .or (.var "a") (.var "b")) (.unary .not (.member (.var "c") "if")))
      (.object [("k\"", .array [.literal .null, .literal (.str "// \\")])])
      (.call (.member (.binary .sub (.var "x") (.binary .sub (.var "y") (.var "z"))) "f")
        [.literal (.bool true), .array []])) =
      "(a || b) && !c.if ? \x7b\"k\\\"\": [null, \"// \\\\\"]\x7d : (x - (y - z)).f(true, [])" := by
    decide
  exact ⟨htext, htext ▸ parseExpression_text _ (by decide)⟩

end WidgetFlow.Script
