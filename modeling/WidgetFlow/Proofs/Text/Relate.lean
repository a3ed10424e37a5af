import WidgetFlow.Proofs.Text.Parser

/-!
# Parsers on related texts

`Relates R S n p p'` says that two parsers agree on texts that `R` relates: both fail, or both give
the same result, take at least `n` characters of the first text, and leave texts that `S` relates.
Whatever is built of parsers that agree agrees as well. So one pass over a grammar gives what it
does on all pairs of texts that its pieces cannot tell apart.

`Below k R` bounds the length of the first text. What is nested in a text is shorter than the text,
and this carries the induction over the nesting of a grammar.

## Main results

* `Relates.andThen`, `Relates.choice`, `Relates.many`, `Relates.separated`: one lemma for each way
  of building a parser.
* `Relates.nested`: parsers that take something agree on longer texts than what is read behind them.
-/

namespace WidgetFlow.Parser

variable {α β γ : Type} {R R' S S' T U : List Char → List Char → Prop} {k m n : Nat}
  {p p' : Parser α} {q q' : Parser β}

/-- On texts that `R` relates both parsers fail, or both give the same result, take at least `n`
characters of the first text, and leave texts that `S` relates. -/
def Relates (R S : List Char → List Char → Prop) (n : Nat) (p p' : Parser α) : Prop :=
  ∀ ⦃cs cs'⦄, R cs cs' → p cs = none ∧ p' cs' = none ∨ ∃ a rest rest', p cs = some (a, rest) ∧
    p' cs' = some (a, rest') ∧ S rest rest' ∧ rest.length + n ≤ cs.length

/-- Texts that a relation relates, the first of which has less than `k` characters. -/
def Below (k : Nat) (R : List Char → List Char → Prop) (cs cs' : List Char) : Prop :=
  cs.length < k ∧ R cs cs'

/-- There is nothing below no characters. -/
theorem not_below_zero {cs cs' : List Char} : ¬ Below 0 R cs cs' := fun h => Nat.not_lt_zero _ h.1

/-- A longer bound bounds more. -/
theorem Below.succ {cs cs' : List Char} (h : Below k R cs cs') : Below (k + 1) R cs cs' :=
  ⟨Nat.lt_succ_of_lt h.1, h.2⟩

namespace Relates

/-- Parsers agree on fewer texts, and leave more. -/
theorem mono (h : Relates R S n p p') (hR : ∀ cs cs', R' cs cs' → R cs cs')
    (hS : ∀ cs cs', S cs cs' → S' cs cs') : Relates R' S' n p p' := fun cs cs' hcs =>
  (h (hR cs cs' hcs)).imp_right fun ⟨a, rest, rest', ha, ha', hrest, hlength⟩ =>
    ⟨a, rest, rest', ha, ha', hS rest rest' hrest, hlength⟩

/-- Parsers that take something may be read as parsers that take less. -/
theorem weaken (h : Relates R S n p p') (hmn : m ≤ n) : Relates R S m p p' := fun _ _ hcs =>
  (h hcs).imp_right fun ⟨a, rest, rest', ha, ha', hrest, _⟩ =>
    ⟨a, rest, rest', ha, ha', hrest, by omega⟩

/-- Parsers keep a bound. -/
theorem below (h : Relates R S n p p') : Relates (Below k R) (Below k S) n p p' :=
  fun _ _ ⟨hlt, hcs⟩ => (h hcs).imp_right fun ⟨a, rest, rest', ha, ha', hrest, hlength⟩ =>
    ⟨a, rest, rest', ha, ha', ⟨by omega, hrest⟩, hlength⟩

/-- Behind a parser that takes something a bound is less by one. -/
theorem nested (h : Relates R S 1 p p') : Relates (Below (k + 1) R) (Below k S) 1 p p' :=
  fun _ _ ⟨hlt, hcs⟩ => (h hcs).imp_right fun ⟨a, rest, rest', ha, ha', hrest, hlength⟩ =>
    ⟨a, rest, rest', ha, ha', ⟨by omega, hrest⟩, hlength⟩

/-! ### Parsers in turn -/

/-- Two parsers in turn. -/
theorem andThen {f f' : α → Parser β} (hp : Relates R S m p p')
    (hf : ∀ a, Relates S T n (f a) (f' a)) : Relates R T (n + m) (andThen p f) (andThen p' f') := by
  intro cs cs' hcs
  rcases hp hcs with ⟨hnone, hnone'⟩ | ⟨a, rest, rest', ha, ha', hrest, hlength⟩
  · exact .inl ⟨andThen_of_none hnone, andThen_of_none hnone'⟩
  · rw [andThen_of_some ha, andThen_of_some ha']
    refine (hf a hrest).imp_right fun ⟨b, mid, mid', hb, hb', hmid, hshorter⟩ => ?_
    exact ⟨b, mid, mid', hb, hb', hmid, by omega⟩

/-- A mapped parser. -/
theorem map (f : α → β) (hp : Relates R S n p p') : Relates R S n (map f p) (map f p') :=
  fun _ _ hcs => (hp hcs).imp (fun h => ⟨map_of_none h.1, map_of_none h.2⟩)
    fun ⟨a, rest, rest', ha, ha', hrest⟩ =>
      ⟨f a, rest, rest', map_of_some ha, map_of_some ha', hrest⟩

/-- A filtered parser. -/
theorem filterMap (f : α → Option β) (hp : Relates R S n p p') :
    Relates R S n (filterMap f p) (filterMap f p') := by
  intro cs cs' hcs
  rw [Parser.filterMap, Parser.filterMap]
  rcases hp hcs with ⟨hnone, hnone'⟩ | ⟨a, rest, rest', ha, ha', hrest⟩
  · exact .inl ⟨by rw [hnone], by rw [hnone']⟩
  · rw [ha, ha']
    dsimp only
    cases f a with
    | none => exact .inl ⟨rfl, rfl⟩
    | some b => exact .inr ⟨b, rest, rest', rfl, rfl, hrest⟩

/-- Two parsers in turn, for the second result. -/
theorem skipLeft (hp : Relates R S m p p') (hq : Relates S T n q q') :
    Relates R T (n + m) (skipLeft p q) (skipLeft p' q') := hp.andThen fun _ => hq

/-- Two parsers in turn, for the first result. -/
theorem skipRight (hp : Relates R S m p p') (hq : Relates S T n q q') :
    Relates R T (n + m) (skipRight p q) (skipRight p' q') := hp.andThen fun _ => hq.map _

/-- Two parsers in turn, for both results. -/
theorem pair (hp : Relates R S m p p') (hq : Relates S T n q q') :
    Relates R T (n + m) (pair p q) (pair p' q') := hp.andThen fun _ => hq.map _

/-! ### Choice -/

/-- A parser that always fails. -/
theorem fail : Relates R S n (fail : Parser α) Parser.fail := fun _ _ _ => .inl ⟨rfl, rfl⟩

/-- The second parser where the first one fails. -/
theorem orElse {r r' : Parser α} (hp : Relates R S n p p') (hr : Relates R S n r r') :
    Relates R S n (orElse p r) (orElse p' r') := by
  intro cs cs' hcs
  rcases hp hcs with ⟨hnone, hnone'⟩ | ⟨a, rest, rest', ha, ha', hrest⟩
  · rw [orElse_of_none hnone, orElse_of_none hnone']
    exact hr hcs
  · exact .inr ⟨a, rest, rest', orElse_of_some ha, orElse_of_some ha', hrest⟩

/-- The first alternative that succeeds. -/
theorem choice {ps ps' : List (Parser α)} (h : List.Forall₂ (Relates R S n) ps ps') :
    Relates R S n (choice ps) (choice ps') := by
  induction h with
  | nil => exact fail
  | cons hp _ ih => exact hp.orElse ih

/-- The parser, or nothing where it fails. -/
theorem opt (hp : Relates R R n p p') : Relates R R 0 (opt p) (opt p') := by
  intro cs cs' hcs
  rw [Parser.opt, Parser.opt]
  rcases hp hcs with ⟨hnone, hnone'⟩ | ⟨a, rest, rest', ha, ha', hrest, hlength⟩
  · exact .inr ⟨none, cs, cs', by rw [hnone], by rw [hnone'], hcs, Nat.le_refl _⟩
  · exact .inr ⟨some a, rest, rest', by rw [ha], by rw [ha'], hrest, by omega⟩

/-- A look ahead for what must not follow. -/
theorem notFollowedBy (hp : Relates R S n p p') :
    Relates R R 0 (notFollowedBy p) (notFollowedBy p') := by
  intro cs cs' hcs
  rw [Parser.notFollowedBy, Parser.notFollowedBy]
  rcases hp hcs with ⟨hnone, hnone'⟩ | ⟨a, rest, rest', ha, ha', -⟩
  · exact .inr ⟨(), cs, cs', by rw [hnone], by rw [hnone'], hcs, Nat.le_refl _⟩
  · exact .inl ⟨by rw [ha], by rw [ha']⟩

/-! ### Repetition -/

section Repetition

variable (hle : ∀ cs cs', R cs cs' → cs.length ≤ cs'.length)
include hle

omit hle in
/-- Any bounds that are no less than the text is long allow as many results. -/
theorem upTo (hp : Relates R R 1 p p') {cs cs' : List Char} (hcs : R cs cs') {b b' : Nat}
    (hb : cs.length ≤ b) (hb' : cs.length ≤ b') :
    ∃ as rest rest', upTo p b cs = some (as, rest) ∧ Parser.upTo p' b' cs' = some (as, rest') ∧
      R rest rest' ∧ rest.length ≤ cs.length := by
  induction b generalizing cs cs' b' with
  | zero =>
      rcases hp hcs with ⟨-, hnone'⟩ | ⟨a, rest, rest', -, -, -, hlength⟩
      · refine ⟨[], cs, cs', rfl, ?_, hcs, Nat.le_refl _⟩
        cases b' with
        | zero => rfl
        | succ b' => rw [Parser.upTo, hnone']
      · omega
  | succ b ih =>
      rw [Parser.upTo]
      rcases hp hcs with ⟨hnone, hnone'⟩ | ⟨a, mid, mid', ha, ha', hmid, hlength⟩
      · refine ⟨[], cs, cs', by rw [hnone], ?_, hcs, Nat.le_refl _⟩
        cases b' with
        | zero => rfl
        | succ b' => rw [Parser.upTo, hnone']
      · obtain ⟨b', rfl⟩ : ∃ i, b' = i + 1 := ⟨b' - 1, by omega⟩
        have hle : mid.length ≤ b ∧ mid.length ≤ b' := by omega
        obtain ⟨as, rest, rest', has, has', hrest, hshorter⟩ := ih hmid hle.1 hle.2
        refine ⟨a :: as, rest, rest', ?_, ?_, hrest, by omega⟩
        · rw [ha]
          exact map_of_some has
        · rw [Parser.upTo, ha']
          exact map_of_some has'

/-- As many results as a parser gives in a row. -/
theorem many (hp : Relates R R 1 p p') : Relates R R 0 (many p) (many p') := by
  intro cs cs' hcs
  obtain ⟨as, rest, rest', has, has', hrest, hlength⟩ :=
    hp.upTo hcs (Nat.le_refl _) (hle cs cs' hcs)
  exact .inr ⟨as, rest, rest', has, has', hrest, hlength⟩

/-- A fold over a repeated parser. -/
theorem foldMany (f : α → β → α) (hp : Relates R R 0 p p') (hq : Relates R R 1 q q') :
    Relates R R 0 (foldMany p q f) (foldMany p' q' f) :=
  hp.andThen fun _ => (hq.many hle).map _

omit hle in
/-- Any bounds that are no less than the text is long allow as many further items. -/
theorem separatedRest (hp : Relates R R 0 p p') (hq : Relates R R 1 q q') {cs cs' : List Char}
    (hcs : R cs cs') {b b' : Nat} (hb : cs.length ≤ b) (hb' : cs.length ≤ b') :
    ∃ as rest rest', separatedRest p q b cs = some (as, rest) ∧
      Parser.separatedRest p' q' b' cs' = some (as, rest') ∧
      R rest rest' ∧ rest.length ≤ cs.length := by
  induction b generalizing cs cs' b' with
  | zero =>
      rcases hq hcs with ⟨-, hnone'⟩ | ⟨a, rest, rest', -, -, -, hlength⟩
      · refine ⟨[], cs, cs', rfl, ?_, hcs, Nat.le_refl _⟩
        cases b' with
        | zero => rfl
        | succ b' => rw [Parser.separatedRest, hnone']
      · omega
  | succ b ih =>
      rw [Parser.separatedRest]
      rcases hq hcs with ⟨hnone, hnone'⟩ | ⟨u, mid, mid', hu, hu', hmid, hlength⟩
      · refine ⟨[], cs, cs', by rw [hnone], ?_, hcs, Nat.le_refl _⟩
        cases b' with
        | zero => rfl
        | succ b' => rw [Parser.separatedRest, hnone']
      · obtain ⟨b', rfl⟩ : ∃ i, b' = i + 1 := ⟨b' - 1, by omega⟩
        rw [Parser.separatedRest, hu, hu']
        dsimp only
        rcases hp hmid with ⟨hnone, hnone'⟩ | ⟨a, next, next', ha, ha', hnext, hless⟩
        · exact ⟨[], mid, mid', by rw [hnone], by rw [hnone'], hmid, by omega⟩
        · have hle : next.length ≤ b ∧ next.length ≤ b' := by omega
          obtain ⟨as, rest, rest', has, has', hrest, hshorter⟩ := ih hnext hle.1 hle.2
          refine ⟨a :: as, rest, rest', ?_, ?_, hrest, by omega⟩
          · rw [ha]
            exact map_of_some has
          · rw [ha']
            exact map_of_some has'

/-- Items with separators between them. -/
theorem separated (hp : Relates R R 0 p p') (hq : Relates R R 1 q q') :
    Relates R R 0 (separated p q) (separated p' q') := by
  intro cs cs' hcs
  rw [Parser.separated, Parser.separated]
  rcases hp hcs with ⟨hnone, hnone'⟩ | ⟨a, mid, mid', ha, ha', hmid, hlength⟩
  · exact .inr ⟨[], cs, cs', by rw [hnone], by rw [hnone'], hcs, Nat.le_refl _⟩
  · obtain ⟨as, rest, rest', has, has', hrest, hshorter⟩ :=
      hp.separatedRest hq hmid (Nat.le_refl _) (hle mid mid' hmid)
    refine .inr ⟨a :: as, rest, rest', ?_, ?_, hrest, by omega⟩
    · rw [ha]
      exact map_of_some has
    · rw [ha']
      exact map_of_some has'

end Repetition

end Relates

end WidgetFlow.Parser
