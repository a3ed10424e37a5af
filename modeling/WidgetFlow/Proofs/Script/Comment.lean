import Mathlib.Data.List.Forall2
import WidgetFlow.Proofs.Script.Shape

/-!
# Which characters are comments

Code is made of pieces: string literals, comments, and single characters. `Pieces cs ps` reads code
as such pieces one after another, where each begins at the place where the one before it ends. What
begins at a place is decided there: a quote begins a literal, `//` and `/*` begin a comment, and
inside of a literal or a comment nothing else begins. A piece that is not ended goes on to the end
of the code.

The relation does not mention the zones of the scan. It reads every code in exactly one way, and the
scan blanks out what it calls comments.

## Main results

* `Pieces.exists_unique`: code is made of pieces in exactly one way.
* `blankComments_of_pieces`: the comments among the pieces are blanked out, and all else stays.
* `comments_blanked`: **blanking comments out blanks exactly the comments**, leaves none behind, and
  makes no difference for what is read.
-/

namespace WidgetFlow.Script

variable {c q : Char} {cs rest rest' inside inside' : List Char}

/-! ### Pieces -/

/-- A piece of code. Literals and comments between marks may lack the closing one. -/
inductive Piece where
  | char (c : Char)
  | literal (quote : Char) (inside : List Char) (closed : Bool)
  | line (inside : List Char)
  | block (inside : List Char) (closed : Bool)

/-- What stands between the quotes of a literal: characters other than the quote, and backslashes
with the character behind each. -/
inductive Quotable (quote : Char) : List Char → Prop
  | nil : Quotable quote []
  | escaped (c : Char) {cs : List Char} : Quotable quote cs → Quotable quote ('\\' :: c :: cs)
  | plain {c : Char} {cs : List Char} :
      c ≠ quote → c ≠ '\\' → Quotable quote cs → Quotable quote (c :: cs)

/-- What stands behind a quote that is not closed; there may be a last backslash with nothing behind
it. -/
def Unclosed (quote : Char) (cs : List Char) : Prop :=
  ∃ front last, cs = front ++ last ∧ Quotable quote front ∧ (last = [] ∨ last = ['\\'])

/-- A character that is blanked out unless it ends a line. -/
def blank (c : Char) : Char := if c = '\n' then '\n' else ' '

namespace Piece

/-- A piece as it stands in the code. -/
def written : Piece → List Char
  | .char c => [c]
  | .literal quote inside closed => quote :: inside ++ if closed then [quote] else []
  | .line inside => '/' :: '/' :: inside
  | .block inside closed => '/' :: '*' :: inside ++ if closed then ['*', '/'] else []

/-- Whether a piece is a comment. -/
def isComment : Piece → Bool
  | .char _ | .literal _ _ _ => false
  | .line _ | .block _ _ => true

/-- A piece with every character blanked out but the line ends if it is a comment. -/
def blanked (p : Piece) : List Char := if p.isComment then p.written.map blank else p.written

/-- Whether a piece may stand in front of the rest of the code. -/
def Stands (rest : List Char) : Piece → Prop
  | .char c => c ≠ '"' ∧ c ≠ '\'' ∧ (c = '/' → ∀ d ∈ rest.head?, d ≠ '/' ∧ d ≠ '*')
  | .literal quote inside closed => (quote = '"' ∨ quote = '\'') ∧
      if closed then Quotable quote inside else Unclosed quote inside ∧ rest = []
  | .line inside => '\n' ∉ inside ∧ ∀ d ∈ rest.head?, d = '\n'
  | .block inside closed => ¬ ['*', '/'] <:+: inside ∧ (closed = false → rest = [])

/-- A literal with its closing quote, in front of the rest of the code. -/
theorem literal_closed (q : Char) (inside rest : List Char) :
    (literal q inside true).written ++ rest = q :: (inside ++ q :: rest) := by
  simp [written]

/-- A literal without its closing quote. -/
theorem literal_open (q : Char) (inside rest : List Char) :
    (literal q inside false).written ++ rest = q :: (inside ++ rest) := by
  simp [written]

/-- A comment with its closing mark, in front of the rest of the code. -/
theorem block_closed (inside rest : List Char) :
    (block inside true).written ++ rest = '/' :: '*' :: (inside ++ '*' :: '/' :: rest) := by
  simp [written]

/-- A comment without its closing mark. -/
theorem block_open (inside rest : List Char) :
    (block inside false).written ++ rest = '/' :: '*' :: (inside ++ rest) := by
  simp [written]

end Piece

/-- Code is made of pieces. -/
inductive Pieces : List Char → List Piece → Prop
  | nil : Pieces [] []
  | cons {p : Piece} {rest : List Char} {ps : List Piece} :
      p.Stands rest → Pieces rest ps → Pieces (p.written ++ rest) (p :: ps)

/-! ### Literals -/

/-- A quote is no backslash. -/
theorem ne_backslash_of_quote (h : q = '"' ∨ q = '\'') : q ≠ '\\' := by
  rcases h with rfl | rfl <;> decide

/-- What follows a quote is a literal with its closing quote, or one without it. -/
theorem exists_quotable (q : Char) (cs : List Char) :
    (∃ inside rest, cs = inside ++ q :: rest ∧ Quotable q inside) ∨ Unclosed q cs := by
  induction hlen : cs.length using Nat.strongRecOn generalizing cs with
  | ind n ih =>
      match cs with
      | [] => exact .inr ⟨[], [], rfl, .nil, .inl rfl⟩
      | c :: tail =>
          by_cases hq : c = q
          · exact .inl ⟨[], tail, by rw [hq]; rfl, .nil⟩
          by_cases hback : c = '\\'
          · subst hback
            match tail with
            | [] => exact .inr ⟨[], ['\\'], rfl, .nil, .inr rfl⟩
            | d :: tail =>
                have hlt : tail.length < n := by
                  rw [← hlen, List.length_cons, List.length_cons]
                  omega
                rcases ih _ hlt tail rfl with ⟨inside, rest, rfl, hi⟩ | ⟨front, last, rfl, hf, hl⟩
                · exact .inl ⟨'\\' :: d :: inside, rest, rfl, .escaped d hi⟩
                · exact .inr ⟨'\\' :: d :: front, last, rfl, .escaped d hf, hl⟩
          · rcases ih _ (hlen ▸ Nat.lt_succ_self _) tail rfl with
              ⟨inside, rest, rfl, hi⟩ | ⟨front, last, rfl, hf, hl⟩
            · exact .inl ⟨c :: inside, rest, rfl, .plain hq hback hi⟩
            · exact .inr ⟨c :: front, last, rfl, .plain hq hback hf, hl⟩

/-- The closing quote of a literal is the first one that is not escaped. -/
theorem Quotable.append_inj (hq : q ≠ '\\') (h : Quotable q inside) (h' : Quotable q inside')
    (heq : inside ++ q :: rest = inside' ++ q :: rest') : inside = inside' ∧ rest = rest' := by
  induction h generalizing inside' with
  | nil =>
      cases h' with
      | nil => exact ⟨rfl, (List.cons.inj heq).2⟩
      | escaped d _ => exact absurd (List.cons.inj heq).1 hq
      | plain hne _ _ => exact absurd (List.cons.inj heq).1.symm hne
  | escaped d _ ih =>
      cases h' with
      | nil => exact absurd (List.cons.inj heq).1.symm hq
      | escaped d' h' =>
          obtain ⟨-, htail⟩ := List.cons.inj heq
          obtain ⟨rfl, hlast⟩ := List.cons.inj htail
          exact (ih h' hlast).imp_left fun h => by rw [h]
      | plain _ hback _ => exact absurd (List.cons.inj heq).1.symm hback
  | plain hne hback _ ih =>
      cases h' with
      | nil => exact absurd (List.cons.inj heq).1 hne
      | escaped d _ => exact absurd (List.cons.inj heq).1 hback
      | plain _ _ h' =>
          obtain ⟨rfl, htail⟩ := List.cons.inj heq
          exact (ih h' htail).imp_left fun h => by rw [h]

/-- A literal that is closed is not one without its closing quote. -/
theorem Quotable.not_unclosed (hq : q ≠ '\\') (h : Quotable q inside) :
    ¬ Unclosed q (inside ++ q :: rest) := by
  rintro ⟨front, last, heq, hfront, hlast⟩
  induction h generalizing front with
  | nil =>
      cases hfront with
      | nil =>
          rcases hlast with rfl | rfl
          · exact nomatch heq
          · exact hq (List.cons.inj heq).1
      | escaped d _ => exact hq (List.cons.inj heq).1
      | plain hne _ _ => exact hne (List.cons.inj heq).1.symm
  | escaped d _ ih =>
      cases hfront with
      | nil =>
          rcases hlast with rfl | rfl
          · exact nomatch heq
          · exact nomatch (List.cons.inj heq).2
      | escaped d' hfront => exact ih _ (List.cons.inj (List.cons.inj heq).2).2 hfront
      | plain _ hback _ => exact hback (List.cons.inj heq).1.symm
  | plain hne hback _ ih =>
      cases hfront with
      | nil =>
          rcases hlast with rfl | rfl
          · exact nomatch heq
          · exact hback (List.cons.inj heq).1
      | escaped d _ => exact hback (List.cons.inj heq).1
      | plain _ _ hfront => exact ih _ (List.cons.inj heq).2 hfront

/-! ### Comments -/

/-- A line comment is what stands in front of the first line end. -/
theorem span_line (h : '\n' ∉ inside) (hrest : ∀ d ∈ rest.head?, d = '\n') :
    (inside ++ rest).takeWhile (· != '\n') = inside ∧
      (inside ++ rest).dropWhile (· != '\n') = rest := by
  have hinside : ∀ d ∈ inside, (d != '\n') = true := fun d hd =>
    bne_iff_ne.mpr fun heq => h (heq ▸ hd)
  rw [List.takeWhile_append_of_pos hinside, List.dropWhile_append_of_pos hinside]
  cases rest with
  | nil => exact ⟨List.append_nil inside, rfl⟩
  | cons d rest =>
      obtain rfl := hrest d rfl
      exact ⟨List.append_nil inside, rfl⟩

/-- A closing mark stands at the first character, or behind it. -/
theorem closing_cons_iff : ['*', '/'] <:+: c :: cs ↔
    (c = '*' ∧ cs.head? = some '/') ∨ ['*', '/'] <:+: cs := by
  rw [List.infix_cons_iff, List.cons_prefix_cons, eq_comm,
    List.singleton_prefix_iff_head?_eq_some]

/-- Where no closing mark begins in front of a closing mark, it does not begin with a character of
that mark either. -/
theorem not_closing_append (h : ¬ ['*', '/'] <:+: c :: inside) (rest : List Char) :
    c = '*' → (inside ++ '*' :: '/' :: rest).head? ≠ some '/' := fun hc => by
  cases inside with
  | nil => exact nofun
  | cons d inside => exact fun hd => h (closing_cons_iff.mpr (.inl ⟨hc, hd⟩))

/-- What follows the opening mark of a comment is a comment with its closing mark, or one without
it. -/
theorem exists_closing (cs : List Char) :
    (∃ inside rest, cs = inside ++ '*' :: '/' :: rest ∧ ¬ ['*', '/'] <:+: inside) ∨
      ¬ ['*', '/'] <:+: cs := by
  induction cs with
  | nil => exact .inr (by decide)
  | cons c tail ih =>
      by_cases hc : c = '*' ∧ tail.head? = some '/'
      · obtain ⟨rest, rfl⟩ := List.head?_eq_some_iff.mp hc.2
        exact .inl ⟨[], rest, by rw [hc.1]; rfl, by decide⟩
      rcases ih with ⟨inside, rest, rfl, hinside⟩ | hnone
      · refine .inl ⟨c :: inside, rest, rfl, fun hm => ?_⟩
        refine (closing_cons_iff.mp hm).elim (fun hfirst => hc ⟨hfirst.1, ?_⟩) hinside
        rw [List.head?_append, hfirst.2]
        rfl
      · exact .inr fun hm => (closing_cons_iff.mp hm).elim hc hnone

/-- The closing mark of a comment is the first one. -/
theorem closing_append_inj (h : ¬ ['*', '/'] <:+: inside) (h' : ¬ ['*', '/'] <:+: inside')
    (heq : inside ++ '*' :: '/' :: rest = inside' ++ '*' :: '/' :: rest') :
    inside = inside' ∧ rest = rest' := by
  induction inside generalizing inside' with
  | nil =>
      cases inside' with
      | nil => exact ⟨rfl, (List.cons.inj (List.cons.inj heq).2).2⟩
      | cons d inside' =>
          obtain ⟨rfl, htail⟩ := List.cons.inj heq
          exact absurd (congrArg List.head? htail).symm (not_closing_append h' rest' rfl)
  | cons c inside ih =>
      cases inside' with
      | nil =>
          obtain ⟨rfl, htail⟩ := List.cons.inj heq
          exact absurd (congrArg List.head? htail) (not_closing_append h rest rfl)
      | cons d inside' =>
          obtain ⟨rfl, htail⟩ := List.cons.inj heq
          have hlater := ih (fun hm => h (closing_cons_iff.mpr (.inr hm)))
            (fun hm => h' (closing_cons_iff.mpr (.inr hm))) htail
          exact hlater.imp_left fun h => by rw [h]

/-! ### Every code in one way -/

/-- How a piece begins. -/
inductive Opening where
  | plain
  | quote (q : Char)
  | line
  | block

/-- How the piece at the start of some code begins. -/
def openingOf : List Char → Opening
  | '/' :: '/' :: _ => .line
  | '/' :: '*' :: _ => .block
  | c :: _ => if c = '"' ∨ c = '\'' then .quote c else .plain
  | [] => .plain

namespace Piece

/-- How a piece begins. -/
def opening : Piece → Opening
  | .char _ => .plain
  | .literal q _ _ => .quote q
  | .line _ => .line
  | .block _ _ => .block

variable {p p' : Piece}

/-- How a piece begins can be seen in the code. -/
theorem openingOf_append (h : p.Stands rest) : openingOf (p.written ++ rest) = p.opening := by
  cases p with
  | char c =>
      have hne : ¬ (c = '"' ∨ c = '\'') := not_or.mpr ⟨h.1, h.2.1⟩
      change openingOf (c :: rest) = .plain
      rw [openingOf, if_neg hne]
      · rintro tail rfl rfl
        exact (h.2.2 rfl _ rfl).1 rfl
      · rintro tail rfl rfl
        exact (h.2.2 rfl _ rfl).2 rfl
  | literal q inside closed =>
      change openingOf (q :: _) = .quote q
      rw [openingOf, if_pos h.1]
      · rintro tail rfl
        exact absurd h.1 (by decide)
      · rintro tail rfl
        exact absurd h.1 (by decide)
  | line inside => rfl
  | block inside closed => rfl

/-- A literal is determined by the code. -/
theorem literal_append_inj {closed closed' : Bool} (h : (literal q inside closed).Stands rest)
    (h' : (literal q inside' closed').Stands rest')
    (heq : (literal q inside closed).written ++ rest =
      (literal q inside' closed').written ++ rest') :
    literal q inside closed = literal q inside' closed' ∧ rest = rest' := by
  have hq := ne_backslash_of_quote h.1
  cases closed with
  | true =>
      have hinside : Quotable q inside := h.2
      cases closed' with
      | true =>
          rw [literal_closed, literal_closed] at heq
          obtain ⟨rfl, rfl⟩ := hinside.append_inj hq h'.2 (List.cons.inj heq).2
          exact ⟨rfl, rfl⟩
      | false =>
          obtain ⟨hopen, rfl⟩ := h'.2
          rw [literal_closed, literal_open, List.append_nil] at heq
          exact absurd ((List.cons.inj heq).2 ▸ hopen) (hinside.not_unclosed hq)
  | false =>
      obtain ⟨hopen, rfl⟩ := h.2
      cases closed' with
      | true =>
          rw [literal_closed, literal_open, List.append_nil] at heq
          exact absurd ((List.cons.inj heq).2 ▸ hopen) (Quotable.not_unclosed hq h'.2)
      | false =>
          obtain ⟨-, rfl⟩ := h'.2
          rw [literal_open, literal_open, List.append_nil, List.append_nil] at heq
          exact ⟨by rw [(List.cons.inj heq).2], rfl⟩

/-- A comment between marks is determined by the code. -/
theorem block_append_inj {closed closed' : Bool} (h : (block inside closed).Stands rest)
    (h' : (block inside' closed').Stands rest')
    (heq : (block inside closed).written ++ rest = (block inside' closed').written ++ rest') :
    block inside closed = block inside' closed' ∧ rest = rest' := by
  have hclosing : ∀ front rest : List Char, ['*', '/'] <:+: front ++ '*' :: '/' :: rest :=
    fun front rest => ⟨front, rest, by rw [List.append_assoc]; rfl⟩
  cases closed with
  | true =>
      cases closed' with
      | true =>
          rw [block_closed, block_closed] at heq
          obtain ⟨rfl, rfl⟩ := closing_append_inj h.1 h'.1 (List.cons.inj (List.cons.inj heq).2).2
          exact ⟨rfl, rfl⟩
      | false =>
          obtain rfl := h'.2 rfl
          rw [block_closed, block_open, List.append_nil] at heq
          have hsame := (List.cons.inj (List.cons.inj heq).2).2
          exact absurd (hsame ▸ hclosing inside rest) h'.1
  | false =>
      obtain rfl := h.2 rfl
      cases closed' with
      | true =>
          rw [block_closed, block_open, List.append_nil] at heq
          have hsame := (List.cons.inj (List.cons.inj heq).2).2
          exact absurd (hsame ▸ hclosing inside' rest') h.1
      | false =>
          obtain rfl := h'.2 rfl
          rw [block_open, block_open, List.append_nil, List.append_nil] at heq
          exact ⟨by rw [(List.cons.inj (List.cons.inj heq).2).2], rfl⟩

/-- The piece at the start of some code is determined by the code. -/
theorem append_inj (h : p.Stands rest) (h' : p'.Stands rest')
    (heq : p.written ++ rest = p'.written ++ rest') : p = p' ∧ rest = rest' := by
  have hopening := openingOf_append h
  rw [heq, openingOf_append h'] at hopening
  cases p with
  | char c =>
      cases p' with
      | char c' =>
          obtain ⟨rfl, hrest⟩ := List.cons.inj heq
          exact ⟨rfl, hrest⟩
      | literal | line | block => exact nomatch hopening
  | literal q inside closed =>
      cases p' with
      | literal q' inside' closed' =>
          obtain rfl := Opening.quote.inj hopening
          exact literal_append_inj h h' heq
      | char | line | block => exact nomatch hopening
  | line inside =>
      cases p' with
      | line inside' =>
          have htail : inside ++ rest = inside' ++ rest' := (List.cons.inj (List.cons.inj heq).2).2
          have hspan := span_line h.1 h.2
          rw [htail, (span_line h'.1 h'.2).1, (span_line h'.1 h'.2).2] at hspan
          exact ⟨congrArg _ hspan.1.symm, hspan.2.symm⟩
      | char | literal | block => exact nomatch hopening
  | block inside closed =>
      cases p' with
      | block inside' closed' => exact block_append_inj h h' heq
      | char | literal | line => exact nomatch hopening

/-- A quote begins a literal. -/
theorem exists_literal (hq : q = '"' ∨ q = '\'') (cs : List Char) :
    ∃ p rest, Stands rest p ∧ q :: cs = p.written ++ rest := by
  rcases exists_quotable q cs with ⟨inside, rest, rfl, hinside⟩ | hopen
  · exact ⟨.literal q inside true, rest, ⟨hq, hinside⟩, (literal_closed q inside rest).symm⟩
  · exact ⟨.literal q cs false, [], ⟨hq, hopen, rfl⟩, by rw [literal_open, List.append_nil]⟩

/-- Two slashes begin a comment. -/
theorem exists_line (cs : List Char) :
    ∃ p rest, Stands rest p ∧ '/' :: '/' :: cs = p.written ++ rest := by
  refine ⟨.line (cs.takeWhile (· != '\n')), cs.dropWhile (· != '\n'),
    ⟨fun hm => ?_, fun d hd => ?_⟩, ?_⟩
  · exact absurd (List.mem_takeWhile_imp hm) (by decide)
  · have hhead := List.head?_dropWhile_not (· != '\n') cs
    rw [Option.mem_def.mp hd] at hhead
    exact bne_eq_false_iff_eq.mp hhead
  · change _ = '/' :: '/' :: (_ ++ _)
    rw [List.takeWhile_append_dropWhile]

/-- A slash and a star begin a comment. -/
theorem exists_block (cs : List Char) :
    ∃ p rest, Stands rest p ∧ '/' :: '*' :: cs = p.written ++ rest := by
  rcases exists_closing cs with ⟨inside, rest, rfl, hinside⟩ | hopen
  · exact ⟨.block inside true, rest, ⟨hinside, nofun⟩, (block_closed inside rest).symm⟩
  · exact ⟨.block cs false, [], ⟨hopen, fun _ => rfl⟩, by rw [block_open, List.append_nil]⟩

/-- A piece stands at the start of any code. -/
theorem exists_piece (c : Char) (cs : List Char) :
    ∃ p rest, Stands rest p ∧ c :: cs = p.written ++ rest := by
  by_cases hquote : c = '"' ∨ c = '\''
  · exact exists_literal hquote cs
  by_cases hslash : c = '/' ∧ ∃ d ∈ cs.head?, d = '/' ∨ d = '*'
  · obtain ⟨rfl, d, hd, hmark⟩ := hslash
    obtain ⟨cs, rfl⟩ := List.head?_eq_some_iff.mp hd
    rcases hmark with rfl | rfl
    · exact exists_line cs
    · exact exists_block cs
  · refine ⟨.char c, cs,
      ⟨fun h => hquote (.inl h), fun h => hquote (.inr h), fun hc d hd => ?_⟩, rfl⟩
    exact not_or.mp fun hmark => hslash ⟨hc, d, hd, hmark⟩

/-- A piece is not empty. -/
theorem written_ne_nil (p : Piece) : p.written ≠ [] := by
  cases p <;> exact nofun

end Piece

namespace Pieces

variable {ps ps' : List Piece}

/-- All code is made of pieces. -/
theorem exists_pieces (cs : List Char) : ∃ ps, Pieces cs ps := by
  induction hlen : cs.length using Nat.strongRecOn generalizing cs with
  | ind n ih =>
      cases cs with
      | nil => exact ⟨[], .nil⟩
      | cons c cs =>
          obtain ⟨p, rest, hp, heq⟩ := Piece.exists_piece c cs
          have hlt : rest.length < n := by
            have hpos := List.length_pos_iff.mpr p.written_ne_nil
            rw [← hlen, heq, List.length_append]
            omega
          obtain ⟨ps, hps⟩ := ih rest.length hlt rest rfl
          exact ⟨p :: ps, heq ▸ .cons hp hps⟩

/-- Code is made of pieces in one way only. -/
theorem unique (h : Pieces cs ps) (h' : Pieces cs ps') : ps' = ps := by
  induction h generalizing ps' with
  | nil =>
      generalize hcs : ([] : List Char) = cs at h'
      cases h' with
      | nil => rfl
      | cons => exact absurd (List.append_eq_nil_iff.mp hcs.symm).1 (Piece.written_ne_nil _)
  | @cons p rest ps hp hrest ih =>
      generalize hcs : p.written ++ rest = cs at h'
      cases h' with
      | nil => exact absurd (List.append_eq_nil_iff.mp hcs).1 p.written_ne_nil
      | cons hp' hrest' =>
          obtain ⟨rfl, rfl⟩ := Piece.append_inj hp hp' hcs
          rw [ih hrest']

/-- **All code is made of pieces in exactly one way.** -/
theorem exists_unique (cs : List Char) : ∃! ps, Pieces cs ps :=
  (exists_pieces cs).imp fun _ h => ⟨h, fun _ h' => h.unique h'⟩

/-- Together the pieces are the code. -/
theorem flatMap_written (h : Pieces cs ps) : ps.flatMap Piece.written = cs := by
  induction h with
  | nil => rfl
  | cons _ _ ih => rw [List.flatMap_cons, ih]

end Pieces

/-! ### Blanking -/

/-- A character that begins no comment stays. -/
theorem blankFrom_code (h : c = '/' → ∀ d ∈ cs.head?, d ≠ '/' ∧ d ≠ '*') :
    blankFrom .code (c :: cs) =
      c :: blankFrom (if c = '"' ∨ c = '\'' then .quoted c else .code) cs := by
  rw [blankFrom]
  · rintro tail rfl rfl
    exact (h rfl _ rfl).1 rfl
  · rintro tail rfl rfl
    exact (h rfl _ rfl).2 rfl

/-- A character of a literal stays, unless it is a backslash with something behind it. -/
theorem blankFrom_quoted (h : c = '\\' → cs = []) : blankFrom (.quoted q) (c :: cs) =
    c :: blankFrom (if c = q then .code else .quoted q) cs := by
  rw [blankFrom]
  rintro d tail rfl rfl
  exact absurd (h rfl) (List.cons_ne_nil d tail)

/-- What stands between quotes stays. -/
theorem Quotable.blankFrom_append (h : Quotable q inside) (rest : List Char) :
    blankFrom (.quoted q) (inside ++ rest) = inside ++ blankFrom (.quoted q) rest := by
  induction h with
  | nil => rfl
  | escaped d _ ih => rw [List.cons_append, List.cons_append, blankFrom, ih]; rfl
  | plain hne hback _ ih =>
      rw [List.cons_append, blankFrom_quoted fun h => absurd h hback, if_neg hne, ih]
      rfl

/-- Where a quote is not closed, nothing is blanked out. -/
theorem Unclosed.blankFrom_eq (hq : q ≠ '\\') (h : Unclosed q cs) :
    blankFrom (.quoted q) cs = cs := by
  obtain ⟨front, last, rfl, hfront, rfl | rfl⟩ := h
  · rw [hfront.blankFrom_append, blankFrom]
  · rw [hfront.blankFrom_append, blankFrom_quoted fun _ => rfl, if_neg hq.symm, blankFrom]

/-- Inside of a line comment everything is blanked out, up to the line end. -/
theorem blankFrom_line (h : '\n' ∉ inside) (hrest : ∀ d ∈ rest.head?, d = '\n') :
    blankFrom .line (inside ++ rest) = inside.map blank ++ blankFrom .code rest := by
  induction inside with
  | nil =>
      cases rest with
      | nil => rfl
      | cons d rest =>
          obtain rfl := hrest d rfl
          exact (blankFrom_code_cons (by decide) rest).symm
  | cons c inside ih =>
      have hc : c ≠ '\n' := fun hc => h (hc ▸ List.mem_cons_self)
      rw [List.cons_append, blankFrom, if_neg hc, ih fun hm => h (List.mem_cons_of_mem _ hm),
        List.map_cons, blank, if_neg hc]
      rfl

/-- A character of a comment between marks is blanked out, unless the comment ends there. -/
theorem blankFrom_block (h : c = '*' → cs.head? ≠ some '/') :
    blankFrom .block (c :: cs) = blank c :: blankFrom .block cs := by
  rw [blankFrom]
  · rfl
  · rintro tail rfl rfl
    exact h rfl rfl

/-- Inside of a comment with its closing mark everything is blanked out. -/
theorem blankFrom_block_closed (h : ¬ ['*', '/'] <:+: inside) (rest : List Char) :
    blankFrom .block (inside ++ '*' :: '/' :: rest) =
      inside.map blank ++ ' ' :: ' ' :: blankFrom .code rest := by
  induction inside with
  | nil => rw [List.nil_append, blankFrom]; rfl
  | cons c inside ih =>
      rw [List.cons_append, blankFrom_block (not_closing_append h rest),
        ih fun hm => h (closing_cons_iff.mpr (.inr hm))]
      rfl

/-- Without a closing mark everything is blanked out to the end of the code. -/
theorem blankFrom_block_open (h : ¬ ['*', '/'] <:+: cs) : blankFrom .block cs = cs.map blank := by
  induction cs with
  | nil => rfl
  | cons c cs ih =>
      rw [blankFrom_block fun hc hd => h (closing_cons_iff.mpr (.inl ⟨hc, hd⟩)),
        ih fun hm => h (closing_cons_iff.mpr (.inr hm))]
      rfl

/-- The piece at the start of some code is blanked out if it is a comment. -/
theorem Piece.blankFrom_append {p : Piece} (h : p.Stands rest) :
    blankFrom .code (p.written ++ rest) = p.blanked ++ blankFrom .code rest := by
  cases p with
  | char c =>
      change blankFrom .code (c :: rest) = c :: blankFrom .code rest
      rw [blankFrom_code h.2.2, if_neg (not_or.mpr ⟨h.1, h.2.1⟩)]
  | literal q inside closed =>
      have hq := ne_backslash_of_quote h.1
      have hslash : q ≠ '/' := by
        rcases h.1 with rfl | rfl <;> decide
      change _ = (literal q inside closed).written ++ _
      cases closed with
      | true =>
          have hinside : Quotable q inside := h.2
          rw [literal_closed, literal_closed, blankFrom_code_cons hslash, if_pos h.1,
            hinside.blankFrom_append, blankFrom_quoted fun hb => absurd hb hq, if_pos rfl]
      | false =>
          obtain ⟨hopen, rfl⟩ := h.2
          rw [literal_open, literal_open, blankFrom_code_cons hslash, if_pos h.1, blankFrom,
            List.append_nil, hopen.blankFrom_eq hq]
  | line inside =>
      change _ = ' ' :: ' ' :: (inside.map blank ++ blankFrom .code rest)
      rw [← blankFrom_line h.1 h.2, written, List.cons_append, List.cons_append, blankFrom]
  | block inside closed =>
      change _ = (block inside closed).written.map blank ++ _
      cases closed with
      | true =>
          rw [block_closed, blankFrom, blankFrom_block_closed h.1, written]
          simp [blank]
      | false =>
          obtain rfl := h.2 rfl
          rw [block_open, List.append_nil, blankFrom.eq_3, blankFrom_block_open h.1, written]
          simp [blank, blankFrom]

/-- **The comments among the pieces are blanked out, and all else stays.** -/
theorem blankComments_of_pieces {ps : List Piece} (h : Pieces cs ps) :
    blankComments cs = ps.flatMap Piece.blanked := by
  induction h with
  | nil => rfl
  | cons hp _ ih =>
      rw [blankComments] at ih ⊢
      rw [Piece.blankFrom_append hp, ih, List.flatMap_cons]

/-! ### What is left -/

/-- A character and what becomes of it: it stays, or becomes a space unless it ends a line. -/
def Kept (c d : Char) : Prop := (c = '\n' ↔ d = '\n') ∧ (d = c ∨ d = ' ')

/-- A character stays. -/
theorem Kept.self (c : Char) : Kept c c := ⟨.rfl, .inl rfl⟩

/-- A character is blanked out. -/
theorem Kept.blank (c : Char) : Kept c (blank c) := by
  rw [Script.blank]
  split
  · next hc => exact hc ▸ .self '\n'
  · next hc => exact ⟨iff_of_false hc (by decide), .inr rfl⟩

/-- Every character of a piece stays or becomes a space. -/
theorem Piece.kept (p : Piece) : List.Forall₂ Kept p.written p.blanked := by
  rw [blanked]
  split
  · exact List.forall₂_map_right_iff.mpr (List.forall₂_same.mpr fun c _ => .blank c)
  · exact List.forall₂_same.mpr fun c _ => .self c

/-- Every character of some code stays or becomes a space. -/
theorem kept_blankComments (cs : List Char) : List.Forall₂ Kept cs (blankComments cs) := by
  obtain ⟨ps, hps⟩ := Pieces.exists_pieces cs
  rw [blankComments_of_pieces hps]
  induction hps with
  | nil => exact .nil
  | cons _ _ ih => exact List.rel_append (Piece.kept _) ih

/-- What is left of a piece: a comment leaves single characters, and all else stays as it is. -/
def Piece.left (p : Piece) : List Piece := if p.isComment then p.blanked.map .char else [p]

variable {p : Piece} {ps : List Piece}

/-- A slash or a star was there before. -/
theorem Kept.of_mark {d : Char} (h : Kept c d) (hmark : d = '/' ∨ d = '*') : c = d := by
  rcases h.2 with rfl | rfl
  · rfl
  · exact absurd hmark (by decide)

/-- What is no comment stands in front of what is left of the code. -/
theorem Piece.Stands.of_kept (h : p.Stands rest) (hp : p.isComment = false)
    (hkept : List.Forall₂ Kept rest rest') : p.Stands rest' := by
  cases p with
  | char c =>
      refine ⟨h.1, h.2.1, fun hc d hd => ?_⟩
      cases hkept with
      | nil => exact nomatch hd
      | cons hfirst _ =>
          obtain rfl := Option.some.inj hd
          refine not_or.mp fun hmark => ?_
          have hbefore := h.2.2 hc _ rfl
          rw [hfirst.of_mark hmark] at hbefore
          exact hmark.elim hbefore.1 hbefore.2
  | literal q inside closed =>
      cases closed with
      | true => exact h
      | false =>
          obtain ⟨hq, hopen, rfl⟩ := h
          cases hkept
          exact ⟨hq, hopen, rfl⟩
  | line | block => exact nomatch hp

/-- Blanked characters are pieces of their own. -/
theorem Pieces.blank_append (cs : List Char) (h : Pieces rest ps) :
    Pieces (cs.map blank ++ rest) ((cs.map blank).map .char ++ ps) := by
  induction cs with
  | nil => exact h
  | cons c cs ih =>
      refine .cons (p := .char (blank c)) ?_ ih
      rw [blank]
      split <;> exact ⟨by decide, by decide, fun h => absurd h (by decide)⟩

/-- What is left of the pieces of some code are the pieces of what is left of the code. -/
theorem Pieces.left (h : Pieces cs ps) :
    Pieces (ps.flatMap Piece.blanked) (ps.flatMap Piece.left) := by
  induction h with
  | nil => exact .nil
  | @cons p rest ps hp hrest ih =>
      rw [List.flatMap_cons, List.flatMap_cons, Piece.left, Piece.blanked]
      split
      · exact ih.blank_append p.written
      · next hcomment =>
          refine .cons (hp.of_kept (Bool.not_eq_true _ ▸ hcomment) ?_) ih
          rw [← blankComments_of_pieces hrest]
          exact kept_blankComments rest

/-- Nothing that is left is a comment. -/
theorem Piece.isComment_of_mem_left {p' : Piece} (h : p' ∈ p.left) : p'.isComment = false := by
  rw [left] at h
  split at h
  · obtain ⟨c, -, rfl⟩ := List.mem_map.mp h
    rfl
  · next hcomment =>
      rw [List.mem_singleton.mp h]
      exact Bool.not_eq_true _ ▸ hcomment

/-- Code without comments stays as it is. -/
theorem blankComments_of_none (h : Pieces cs ps) (hnone : ∀ p ∈ ps, p.isComment = false) :
    blankComments cs = cs := by
  rw [blankComments_of_pieces h]
  refine Eq.trans (List.flatMap_congr fun p hp => ?_) h.flatMap_written
  rw [Piece.blanked, hnone p hp]
  rfl

/-- What is left has no comments. -/
theorem Pieces.of_blankComments (h : Pieces (blankComments cs) ps) :
    ∀ p ∈ ps, p.isComment = false := by
  obtain ⟨ps', hps'⟩ := Pieces.exists_pieces cs
  rw [blankComments_of_pieces hps'] at h
  rw [hps'.left.unique h]
  intro p hp
  obtain ⟨p', -, hp'⟩ := List.mem_flatMap.mp hp
  exact Piece.isComment_of_mem_left hp'

/-- Comments are blanked out only once. -/
theorem blankComments_blankComments (cs : List Char) :
    blankComments (blankComments cs) = blankComments cs := by
  obtain ⟨ps, hps⟩ := Pieces.exists_pieces (blankComments cs)
  exact blankComments_of_none hps hps.of_blankComments

/-- For what is read from some code, its comments make no difference. -/
theorem readWhole_stripComments {α : Type} (p : Parser α) (code : String) :
    readWhole p (stripComments code) = readWhole p code := by
  rw [readWhole, readWhole, stripComments, String.toList_ofList, blankComments_blankComments]

/-- **Blanking comments out blanks exactly the comments.** Every character of the code stays or
becomes a space, and every line end stays. The code is made of pieces in exactly one way, and what
becomes of it are these pieces with the comments blanked out, but for their line ends. What is left
has no comments: doing it again changes nothing, and the code with its comments and the code without
them are read as the same statements, the same function or the same expression. -/
theorem comments_blanked (code : String) :
    let left := (stripComments code).toList
    left.length = code.toList.length ∧ List.Forall₂ Kept code.toList left ∧
    (∃ ps, Pieces code.toList ps ∧ (∀ ps', Pieces code.toList ps' → ps' = ps) ∧
      left = ps.flatMap Piece.blanked) ∧
    (∀ ps, Pieces left ps → ∀ p ∈ ps, p.isComment = false) ∧
    stripComments (stripComments code) = stripComments code ∧
    parseProgram (stripComments code) = parseProgram code ∧
    parseFunction (stripComments code) = parseFunction code ∧
    parseWrapped (stripComments code) = parseWrapped code ∧
    parseExpression (stripComments code) = parseExpression code := by
  intro left
  have hleft : left = blankComments code.toList := String.toList_ofList
  have hkept := kept_blankComments code.toList
  obtain ⟨ps, hps, hunique⟩ := Pieces.exists_unique code.toList
  refine ⟨hleft ▸ hkept.length_eq.symm, hleft ▸ hkept,
    ⟨ps, hps, hunique, hleft.trans (blankComments_of_pieces hps)⟩,
    fun ps' hps' => (hleft ▸ hps' : Pieces (blankComments code.toList) ps').of_blankComments, ?_,
    readWhole_stripComments _ code, readWhole_stripComments _ code,
    readWhole_stripComments _ code, readWhole_stripComments _ code⟩
  rw [stripComments, show (stripComments code).toList = _ from hleft, blankComments_blankComments]
  rfl

end WidgetFlow.Script
