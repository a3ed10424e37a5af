import WidgetFlow.Proofs.Script.Level
import WidgetFlow.Proofs.Text.Relate

/-!
# Expressions with something behind them

An expression closes every brace and every string that it opens. So what stands behind a whole
expression is not taken for a part of it, if it starts with a closing brace: an expression that is
read from a whole text is read in the same way when the text is followed by the end of a block.

Both are about pairs of texts, of which the second one is the first one with a tail
(`Extends T final s`): a scan of the first text, which counts the open braces outside strings, leads
from the place `s` to the place `final`. One pass over the grammar shows that expressions agree on
such texts.

## Main results

* `Tails.relates_expression`: expressions agree on texts that have or have not a tail.
* `after_of_expression`: an expression closes the braces and the strings that it opens.
* `expression_append`: an expression is read in front of the end of a block.
* `blankFrom_append`: code without comments stays so in front of more code.
-/

namespace WidgetFlow.Script

open WidgetFlow.Parser

/-! ### Scanning braces -/

/-- Where a scan stands: in code, in a string in the given quotes, or behind a backslash in such a
string. The number of braces that are open is counted. -/
inductive Place where
  | code (depth : Nat)
  | quoted (quote : Char) (depth : Nat)
  | escaped (quote : Char) (depth : Nat)

namespace Place

/-- Where a scan stands behind one more character. -/
def next : Place → Char → Place
  | .code depth, c =>
    if c = '\x7b' then .code (depth + 1)
    else if c = '\x7d' then .code (depth - 1)
    else if c = '"' ∨ c = '\'' then .quoted c depth
    else .code depth
  | .quoted quote depth, c =>
    if c = '\\' then .escaped quote depth
    else if c = quote then .code depth
    else .quoted quote depth
  | .escaped quote depth, _ => .quoted quote depth

/-- Where a scan stands behind a text. -/
def after (s : Place) (cs : List Char) : Place := cs.foldl next s

end Place

/-- Whether a character is neither blank nor a brace, and starts no string. -/
def isInert (c : Char) : Bool :=
  !Text.isBlank c && c != '\x7b' && c != '\x7d' && c != '"' && c != '\''

variable {T : List Char → Prop} {final s s' : Place} {c : Char} {cs cs' rest tail : List Char}
  {d d' k n : Nat} {test : Char → Bool}

/-- A blank leaves a scan of code in its place. -/
theorem next_of_isBlank (hc : Text.isBlank c = true) : (Place.code d).next c = .code d := by
  have hall : ∀ b ∈ ['\x7b', '\x7d', '"', '\''], Text.isBlank b = false :=
    List.all_iff_forall_prop.mp (by decide)
  have hne : ∀ b ∈ ['\x7b', '\x7d', '"', '\''], c ≠ b := by
    rintro b hb rfl
    exact absurd hc (Bool.eq_false_iff.mp (hall c hb))
  simp only [List.forall_mem_cons] at hne
  simp [Place.next, hne]

/-- Blanks leave a scan of code in its place. -/
theorem after_skipBlanks (cs : List Char) :
    (Place.code d).after (Text.skipBlanks cs) = (Place.code d).after cs := by
  induction cs with
  | nil => rfl
  | cons c cs ih =>
      cases hc : Text.isBlank c with
      | true =>
          have hnext : (Place.code d).after (c :: cs) = ((Place.code d).next c).after cs := rfl
          rw [Text.skipBlanks, List.dropWhile_cons_of_pos hc, hnext, next_of_isBlank hc]
          exact ih
      | false => rw [Text.skipBlanks_cons hc]

/-- An inert character leaves a scan of code in its place. -/
theorem next_of_isInert (hc : isInert c = true) : (Place.code d).next c = .code d := by
  simp only [isInert, Bool.and_eq_true, Bool.not_eq_true', bne_iff_ne] at hc
  simp [Place.next, hc]

/-- An inert character is neither blank nor a closing brace. -/
theorem not_isInert (hc : Text.isBlank c = true ∨ c = '\x7d') : isInert c = false := by
  rcases hc with hc | rfl
  · simp [isInert, hc]
  · rfl

/-- A part of a name is inert. -/
theorem isInert_of_isNamePart (hc : isNamePart c = true) : isInert c = true := by
  have hall : ∀ b ∈ ['\x7b', '\x7d', '"', '\''], isNamePart b = false :=
    List.all_iff_forall_prop.mp (by decide +kernel)
  have hne : ∀ b ∈ ['\x7b', '\x7d', '"', '\''], c ≠ b := by
    rintro b hb rfl
    exact absurd hc (Bool.eq_false_iff.mp (hall c hb))
  have hblank : Text.isBlank c = false := by
    by_contra hblank
    rw [Bool.not_eq_false] at hblank
    have hword := (Text.not_word_of_isBlank hblank).1
    simp only [isNamePart, hword, Bool.false_or, Bool.or_eq_true, decide_eq_true_eq] at hc
    rcases hc with rfl | rfl <;> exact absurd hblank (by decide)
  simp only [List.forall_mem_cons] at hne
  simp [isInert, hblank, hne]

/-- A digit is inert. -/
theorem isInert_of_isDigit (hc : c.isDigit = true) : isInert c = true := by
  have hall : ∀ n : Fin 58, (Char.ofNat n).isDigit = true → isInert (Char.ofNat n) = true := by
    decide
  obtain ⟨n, rfl⟩ := exists_of_isDigit hc
  exact hall n hc

/-! ### Tails -/

/-- The tails of texts whose scan leads to a place: they start with a blank or a closing brace, if
with anything, and there are some only where a scan ends in code and no brace is open. -/
structure Tails (T : List Char → Prop) (final : Place) : Prop where
  skip : ∀ t, T t → T (Text.skipBlanks t)
  head : ∀ t, T t → ∀ c ∈ t.head?, final = .code 0 ∧ (Text.isBlank c = true ∨ c = '\x7d')

/-- The second text is the first one with a tail, and a scan of the first one leads from one place
to another. -/
def Extends (T : List Char → Prop) (final s : Place) (cs cs' : List Char) : Prop :=
  s.after cs = final ∧ ∃ t, T t ∧ cs' = cs ++ t

/-- Texts in code. -/
abbrev InCode (T : List Char → Prop) (final : Place) (d : Nat) : List Char → List Char → Prop :=
  Extends T final (.code d)

/-- A tail makes a text no shorter. -/
theorem Extends.length_le (h : Extends T final s cs cs') : cs.length ≤ cs'.length := by
  obtain ⟨-, t, -, rfl⟩ := h
  rw [List.length_append]
  exact Nat.le_add_right _ _

/-- A tail makes a bounded text no shorter. -/
theorem length_le_of_below (h : Below k (Extends T final s) cs cs') : cs.length ≤ cs'.length :=
  h.2.length_le

/-- Blanks may be skipped in texts that a relation relates. -/
def SkipsBlanks (R : List Char → List Char → Prop) : Prop :=
  ∀ cs cs', R cs cs' → R (Text.skipBlanks cs) (Text.skipBlanks cs')

/-- Blanks may be skipped in bounded texts. -/
theorem SkipsBlanks.below {R : List Char → List Char → Prop} (h : SkipsBlanks R) :
    SkipsBlanks (Below k R) := fun cs cs' hcs =>
  ⟨Nat.lt_of_le_of_lt (Text.length_skipBlanks_le cs) hcs.1, h cs cs' hcs.2⟩

/-- Parsers that agree do so with blanks around them. -/
theorem relates_spaced {α : Type} {R S : List Char → List Char → Prop} {p p' : Parser α}
    (hR : SkipsBlanks R) (hS : SkipsBlanks S) (hp : Relates R S n p p') :
    Relates R S n (spaced p) (spaced p') := by
  intro cs cs' hcs
  rw [Script.spaced, Script.spaced]
  have hskip := Text.length_skipBlanks_le cs
  rcases hp (hR cs cs' hcs) with ⟨hnone, hnone'⟩ | ⟨a, rest, rest', ha, ha', hrest, hlength⟩
  · exact .inl ⟨by rw [hnone], by rw [hnone']⟩
  · have hle := Text.length_skipBlanks_le rest
    exact .inr ⟨a, _, _, by rw [ha], by rw [ha'], hS rest rest' hrest, by omega⟩

/-- What stands between two marks is nested. -/
theorem relates_between {α : Type} {R S : List Char → List Char → Prop} {l r : Char}
    {p p' : Parser α} (hl : Relates R S 1 (mark l) (mark l)) (hr : Relates S R 1 (mark r) (mark r))
    (hp : Relates (Below k S) (Below k S) 0 p p') :
    Relates (Below (k + 1) R) (Below (k + 1) R) 1 (between (mark l) (mark r) p)
      (between (mark l) (mark r) p') :=
  (((hl.nested.skipLeft hp).skipRight hr.below).mono (fun _ _ h => h) fun _ _ => .succ).weaken
    (by omega)

namespace Tails

variable (hT : Tails T final)
include hT

/-- Blanks may be skipped in code. -/
theorem skipsBlanks : SkipsBlanks (InCode T final d) := by
  rintro cs _ ⟨hafter, t, ht, rfl⟩
  refine ⟨(after_skipBlanks cs).trans hafter, ?_⟩
  rw [Text.skipBlanks, Text.skipBlanks, List.dropWhile_append]
  split
  · next hnil =>
      rw [List.isEmpty_iff.mp hnil]
      exact ⟨_, hT.skip t ht, rfl⟩
  · exact ⟨t, ht, rfl⟩

/-! ### Characters -/

/-- One character. -/
theorem satisfy (hnext : ∀ c, test c = true → s.next c = s')
    (hend : s = .code 0 → ∀ c, Text.isBlank c = true ∨ c = '\x7d' → test c = false) :
    Relates (Extends T final s) (Extends T final s') 1 (satisfy test) (satisfy test) := by
  rintro cs _ ⟨hafter, t, ht, rfl⟩
  cases cs with
  | nil =>
      refine .inl ⟨rfl, ?_⟩
      cases t with
      | nil => rfl
      | cons c t =>
          obtain ⟨hfinal, hc⟩ := hT.head _ ht c rfl
          rw [List.nil_append, Parser.satisfy, hend (Eq.trans hafter hfinal) c hc]
          rfl
  | cons c cs =>
      rw [List.cons_append, Parser.satisfy, Parser.satisfy]
      cases hc : test c with
      | false => exact .inl ⟨rfl, rfl⟩
      | true =>
          rw [Place.after, List.foldl_cons, hnext c hc] at hafter
          exact .inr ⟨c, cs, cs ++ t, rfl, rfl, ⟨hafter, t, ht, rfl⟩, Nat.le_refl _⟩

/-- One inert character. -/
theorem satisfy_inert (htest : ∀ c, test c = true → isInert c = true) :
    Relates (InCode T final d) (InCode T final d) 1 (Parser.satisfy test) (Parser.satisfy test) :=
  hT.satisfy (fun c hc => next_of_isInert (htest c hc)) fun _ c hc =>
    Bool.eq_false_iff.mpr fun hpass => Bool.eq_false_iff.mp (not_isInert hc) (htest c hpass)

/-- A given inert character. -/
theorem char (hc : isInert c = true) :
    Relates (InCode T final d) (InCode T final d) 1 (char c) (Parser.char c) :=
  hT.satisfy_inert fun b hb => by
    obtain rfl : b = c := of_decide_eq_true hb
    exact hc

/-- A run of inert characters. -/
theorem takeWhile (htest : ∀ c, test c = true → isInert c = true) :
    Relates (InCode T final d) (InCode T final d) 0 (takeWhile test) (takeWhile test) := by
  rintro cs _ ⟨hafter, t, ht, rfl⟩
  have hstop : ∀ c ∈ t.head?, test c = false := fun c hc => Bool.eq_false_iff.mpr fun hpass =>
    Bool.eq_false_iff.mp (not_isInert (hT.head t ht c hc).2) (htest c hpass)
  rw [Parser.takeWhile, Parser.takeWhile, List.span_eq_takeWhile_dropWhile,
    List.span_eq_takeWhile_dropWhile]
  have hspan : (cs ++ t).takeWhile test = cs.takeWhile test ∧
      (cs ++ t).dropWhile test = cs.dropWhile test ++ t ∧
      (Place.code d).after (cs.dropWhile test) = final := by
    induction cs with
    | nil =>
        cases t with
        | nil => exact ⟨rfl, rfl, hafter⟩
        | cons c t =>
            have hc : ¬ test c = true := Bool.eq_false_iff.mp (hstop c rfl)
            exact ⟨List.takeWhile_cons_of_neg hc, List.dropWhile_cons_of_neg hc, hafter⟩
    | cons c cs ih =>
        rw [List.cons_append]
        by_cases hc : test c = true
        · rw [Place.after, List.foldl_cons, next_of_isInert (htest c hc)] at hafter
          obtain ⟨htake, hdrop, hrest⟩ := ih hafter
          rw [List.takeWhile_cons_of_pos hc, List.takeWhile_cons_of_pos hc, htake,
            List.dropWhile_cons_of_pos hc, List.dropWhile_cons_of_pos hc]
          exact ⟨rfl, hdrop, hrest⟩
        · rw [List.takeWhile_cons_of_neg hc, List.takeWhile_cons_of_neg hc,
            List.dropWhile_cons_of_neg hc, List.dropWhile_cons_of_neg hc]
          exact ⟨rfl, rfl, hafter⟩
  obtain ⟨htake, hdrop, hrest⟩ := hspan
  rw [htake, hdrop]
  exact .inr ⟨_, _, _, rfl, rfl, ⟨hrest, t, ht, rfl⟩,
    (List.dropWhile_sublist test).length_le⟩

/-- Given inert characters. -/
theorem text {w : List Char} (hw : ∀ c ∈ w, isInert c = true) :
    Relates (InCode T final d) (InCode T final d) w.length (Parser.literal w)
      (Parser.literal w) := by
  induction w with
  | nil => exact fun cs cs' hcs => .inr ⟨(), cs, cs', rfl, rfl, hcs, Nat.le_refl _⟩
  | cons c w ih =>
      have hsplit : Parser.literal (c :: w) =
          Parser.skipLeft (Parser.char c) (Parser.literal w) := by
        funext cs
        cases cs with
        | nil => rfl
        | cons b cs =>
            by_cases hbc : b = c
            · subst hbc
              simp [Parser.literal, Parser.skipLeft, andThen, Parser.char, Parser.satisfy]
            · simp [Parser.literal, Parser.skipLeft, andThen, Parser.char, Parser.satisfy, hbc,
                Ne.symm hbc]
      obtain ⟨hc, hw⟩ := List.forall_mem_cons.mp hw
      rw [hsplit]
      exact (hT.char hc).skipLeft (ih hw)

/-- A parser with blanks around it. -/
theorem spaced {α : Type} {p p' : Parser α}
    (hp : Relates (InCode T final d) (InCode T final d') n p p') :
    Relates (InCode T final d) (InCode T final d') n (spaced p) (Script.spaced p') :=
  relates_spaced hT.skipsBlanks hT.skipsBlanks hp

/-- A mark that is inert. -/
theorem mark (hc : isInert c = true) :
    Relates (InCode T final d) (InCode T final d) 1 (mark c) (Script.mark c) :=
  hT.spaced (hT.char hc)

/-- An opening brace. -/
theorem openBrace : Relates (InCode T final d) (InCode T final (d + 1)) 1 (Script.mark '\x7b')
    (Script.mark '\x7b') := by
  refine hT.spaced (hT.satisfy (fun c hc => ?_) fun _ c hc => ?_)
  · rw [of_decide_eq_true hc]
    rfl
  · rcases hc with hc | rfl
    · refine decide_eq_false ?_
      rintro rfl
      exact absurd hc (by decide)
    · rfl

/-- A closing brace. -/
theorem closeBrace : Relates (InCode T final (d + 1)) (InCode T final d) 1 (Script.mark '\x7d')
    (Script.mark '\x7d') := by
  refine hT.spaced (hT.satisfy (fun c hc => ?_) fun hs => ?_)
  · rw [of_decide_eq_true hc]
    rfl
  · cases hs

/-! ### Words, strings and numbers -/

/-- A word. -/
theorem anyName : Relates (InCode T final d) (InCode T final d) 1 anyName Script.anyName :=
  ((hT.satisfy_inert fun _ hc => isInert_of_isNamePart (isNamePart_of_isNameStart hc)).pair
    (hT.takeWhile fun _ hc => isInert_of_isNamePart hc)).map _

/-- A keyword. -/
theorem keyword (word : String) :
    Relates (InCode T final d) (InCode T final d) 1 (keyword word) (Script.keyword word) :=
  hT.spaced (hT.anyName.filterMap _)

/-- One character of a string. -/
theorem quotedChar (quote : Char) : Relates (Extends T final (.quoted quote d))
    (Extends T final (.quoted quote d)) 1 (quotedChar quote) (Script.quotedChar quote) := by
  rintro cs _ ⟨hafter, t, ht, rfl⟩
  -- a scan does not end within a string if there is a tail
  have hend : ∀ {s : Place}, s = final → s ≠ .code 0 → t = [] := fun {s} hs hne => by
    cases t with
    | nil => rfl
    | cons c t => exact absurd (hs.trans (hT.head _ ht c rfl).1) hne
  cases cs with
  | nil =>
      obtain rfl := hend hafter nofun
      exact .inl ⟨rfl, rfl⟩
  | cons c cs =>
      by_cases hback : c = '\\'
      · subst hback
        cases cs with
        | nil =>
            obtain rfl := hend hafter nofun
            exact .inl (by simp [Script.quotedChar])
        | cons c cs =>
            simp only [List.cons_append, Script.quotedChar]
            cases escapeOf c with
            | none => exact .inl ⟨rfl, rfl⟩
            | some e =>
                exact .inr ⟨e, cs, cs ++ t, rfl, rfl, ⟨hafter, t, ht, rfl⟩, Nat.le_succ _⟩
      · have heq : ∀ cs, Script.quotedChar quote (c :: cs) =
            if c = quote then none else some (c, cs) := by
          intro cs
          rw [Script.quotedChar]
          · simp [hback]
          · exact fun _ _ h _ => hback h
        rw [List.cons_append, heq, heq]
        by_cases hquote : c = quote
        · exact .inl ⟨if_pos hquote, if_pos hquote⟩
        · rw [Place.after, List.foldl_cons, Place.next, if_neg hback, if_neg hquote] at hafter
          exact .inr ⟨c, cs, cs ++ t, if_neg hquote, if_neg hquote, ⟨hafter, t, ht, rfl⟩,
            Nat.le_refl _⟩

/-- A string in some quotes. -/
theorem quoted {quote : Char} (hquote : quote = '"' ∨ quote = '\'') :
    Relates (InCode T final d) (InCode T final d) 1 (quoted quote) (Script.quoted quote) := by
  have hopen : Relates (InCode T final d) (Extends T final (.quoted quote d)) 1
      (Parser.char quote) (Parser.char quote) := by
    refine hT.satisfy (fun c hc => ?_) fun _ c hc => ?_
    · rw [of_decide_eq_true hc]
      rcases hquote with rfl | rfl <;> rfl
    · refine decide_eq_false ?_
      rintro rfl
      rcases hquote with rfl | rfl <;> exact absurd hc (by decide)
  have hclose : Relates (Extends T final (.quoted quote d)) (InCode T final d) 1
      (Parser.char quote) (Parser.char quote) := by
    refine hT.satisfy (fun c hc => ?_) nofun
    rw [of_decide_eq_true hc]
    rcases hquote with rfl | rfl <;> rfl
  have hchars := (hT.quotedChar quote (d := d)).many fun _ _ => Extends.length_le
  exact (((hopen.skipLeft hchars).skipRight hclose).map _).weaken (by omega)

/-- A string. -/
theorem stringLiteral :
    Relates (InCode T final d) (InCode T final d) 1 stringLiteral Script.stringLiteral :=
  (hT.quoted (.inl rfl)).orElse (hT.quoted (.inr rfl))

/-- Digits. -/
theorem digits : Relates (InCode T final d) (InCode T final d) 0 digits Script.digits := by
  have heq : Script.digits =
      filterMap (fun ds => if ds = [] then none else some ds) (Parser.takeWhile Char.isDigit) := by
    funext cs
    rw [Script.digits, Parser.filterMap, Parser.takeWhile]
    cases cs.span Char.isDigit with
    | mk ds rest => cases ds <;> rfl
  rw [heq]
  exact (hT.takeWhile fun c hc => isInert_of_isDigit hc).filterMap _

/-- An exponent. -/
theorem exponent :
    Relates (InCode T final d) (InCode T final d) 0 exponent Script.exponent := by
  have hmark : Relates (InCode T final d) (InCode T final d) 1
      (Parser.satisfy fun c => c = 'e' || c = 'E') (Parser.satisfy fun c => c = 'e' || c = 'E') :=
    hT.satisfy_inert fun c hc => by
      rcases Bool.or_eq_true_iff.mp hc with hc | hc <;> rw [of_decide_eq_true hc] <;> rfl
  have hsign : Relates (InCode T final d) (InCode T final d) 1
      (Parser.satisfy fun c => c = '+' || c = '-') (Parser.satisfy fun c => c = '+' || c = '-') :=
    hT.satisfy_inert fun c hc => by
      rcases Bool.or_eq_true_iff.mp hc with hc | hc <;> rw [of_decide_eq_true hc] <;> rfl
  exact (hmark.skipLeft (hsign.opt.andThen fun _ => hT.digits.map _)).weaken (Nat.zero_le _)

/-- A number. -/
theorem numberLiteral :
    Relates (InCode T final d) (InCode T final d) 0 numberLiteral Script.numberLiteral := by
  have hpoint : isInert '.' = true := by decide
  exact hT.digits.andThen fun _ => ((hT.char hpoint).skipLeft hT.digits).opt.andThen fun _ =>
    hT.exponent.opt.map _

/-- A literal. -/
theorem literal : Relates (InCode T final d) (InCode T final d) 0 literal Script.literal :=
  .choice (.cons (((hT.keyword _).map _).weaken (Nat.zero_le 1))
    (.cons (((hT.keyword _).map _).weaken (Nat.zero_le 1))
    (.cons (((hT.keyword _).map _).weaken (Nat.zero_le 1))
    (.cons (((hT.keyword _).map _).weaken (Nat.zero_le 1))
    (.cons (hT.numberLiteral.map _)
    (.cons ((hT.stringLiteral.map _).weaken (Nat.zero_le 1)) .nil))))))

/-! ### Operators -/

/-- An operator. -/
theorem sign (op : BinaryOp) :
    Relates (InCode T final d) (InCode T final d) 1 (sign op) (Script.sign op) := by
  have hinert : ∀ c ∈ op.sign.toList, isInert c = true :=
    List.all_eq_true.mp (by cases op <;> decide)
  have hlength : 1 ≤ op.sign.toList.length := by cases op <;> decide
  exact ((hT.text hinert).map _).weaken hlength

/-- A sign that does not start an assignment. -/
theorem plainSign (op : BinaryOp) :
    Relates (InCode T final d) (InCode T final d) 1 (plainSign op) (Script.plainSign op) :=
  ((hT.sign op).skipRight (hT.char (by decide)).notFollowedBy).weaken (Nat.le_refl _)

/-- The operators of a level. -/
theorem levelOp (p : Nat) :
    Relates (InCode T final d) (InCode T final d) 1 (levelOp p) (Script.levelOp p) :=
  match p with
  | 1 => hT.sign .or
  | 2 => hT.sign .and
  | 3 => .choice (.cons (hT.sign _) (.cons (hT.sign _) (.cons (hT.sign _)
      (.cons (hT.sign _) .nil))))
  | 4 => .choice (.cons (hT.sign _) (.cons (hT.sign _) (.cons (hT.sign _)
      (.cons (hT.sign _) .nil))))
  | 5 => .choice (.cons (hT.plainSign _) (.cons (hT.plainSign _) .nil))
  | 6 => .choice (.cons (hT.sign _) (.cons (hT.sign _) (.cons (hT.sign _) .nil)))
  | 0 | _ + 7 => .fail

/-- A prefix operator. -/
theorem unaryOp :
    Relates (InCode T final d) (InCode T final d) 1 unaryOp Script.unaryOp :=
  hT.spaced (((hT.char (by decide)).map _).orElse ((hT.char (by decide)).map _))

/-! ### Levels -/

section Levels

variable {expr expr' : Parser Expr} (hexpr : ∀ d, Relates (Below k (InCode T final d))
  (Below k (InCode T final d)) 0 expr expr')

include hexpr

/-- Expressions between commas. -/
theorem expressions : Relates (Below k (InCode T final d)) (Below k (InCode T final d)) 0
    (expressions expr) (Script.expressions expr') :=
  (hexpr d).separated (fun _ _ => length_le_of_below) (hT.mark (by decide)).below

/-- The entries of a record. -/
theorem entries : Relates (Below k (InCode T final d)) (Below k (InCode T final d)) 0
    (separated (entry expr) (Script.mark ',')) (separated (entry expr') (Script.mark ',')) := by
  have hkey : Relates (InCode T final d) (InCode T final d) 1 entryKey entryKey :=
    hT.spaced (hT.anyName.orElse hT.stringLiteral)
  have hentry := (hkey.skipRight (hT.mark (c := ':') (by decide))).below.pair (hexpr d)
  exact (hentry.weaken (Nat.zero_le _)).separated (fun _ _ => length_le_of_below)
    (hT.mark (by decide)).below

/-- An atom. -/
theorem atom : Relates (Below (k + 1) (InCode T final d)) (Below (k + 1) (InCode T final d)) 0
    (atom expr) (Script.atom expr') :=
  relates_spaced hT.skipsBlanks.below hT.skipsBlanks.below <| .choice
    (.cons hT.literal.below
    (.cons (((relates_between (hT.mark (by decide)) (hT.mark (by decide))
      (hT.expressions hexpr)).map _).weaken (Nat.zero_le _))
    (.cons (((relates_between hT.openBrace hT.closeBrace (hT.entries hexpr)).map _).weaken
      (Nat.zero_le _))
    (.cons ((relates_between (hT.mark (by decide)) (hT.mark (by decide)) (hexpr d)).weaken
      (Nat.zero_le _))
    (.cons (((hT.anyName.filterMap _).map _).weaken (Nat.zero_le _)).below .nil)))))

/-- A suffix. -/
theorem suffix : Relates (Below (k + 1) (InCode T final d)) (Below (k + 1) (InCode T final d)) 1
    (suffix expr) (Script.suffix expr') :=
  relates_spaced hT.skipsBlanks.below hT.skipsBlanks.below <| .choice
    (.cons ((((hT.mark (by decide)).skipLeft hT.anyName).map _).weaken (by omega)).below
    (.cons ((relates_between (hT.mark (by decide)) (hT.mark (by decide)) (hexpr d)).map _)
    (.cons ((relates_between (hT.mark (by decide)) (hT.mark (by decide))
      (hT.expressions hexpr)).map _) .nil)))

/-- The two branches of a conditional expression. -/
theorem branches : Relates (Below (k + 1) (InCode T final d)) (Below (k + 1) (InCode T final d)) 0
    (branches expr) (Script.branches expr') := by
  have htest := (hT.mark (c := '?') (d := d) (by decide)).nested.skipLeft (hexpr d)
  have hyes := htest.skipRight (hT.mark (c := ':') (by decide)).below
  exact ((hyes.pair (hexpr d)).mono (fun _ _ h => h) fun _ _ => .succ).weaken (Nat.zero_le _)

/-- The levels of expressions. -/
theorem levelParser (p : Nat) : Relates (Below (k + 1) (InCode T final d))
    (Below (k + 1) (InCode T final d)) 0 (levelParser expr p) (Script.levelParser expr' p) := by
  have hle : ∀ cs cs', Below (k + 1) (InCode T final d) cs cs' → cs.length ≤ cs'.length :=
    fun _ _ => length_le_of_below
  induction hj : 8 - p generalizing p with
  | zero =>
      obtain ⟨q, rfl⟩ : ∃ q, p = q + 8 := ⟨p - 8, by omega⟩
      exact (hT.atom hexpr).foldMany hle _ (hT.suffix hexpr)
  | succ j ih =>
      have htighter := ih (p + 1) (by omega)
      have hcases : p = 0 ∨ (1 ≤ p ∧ p ≤ 6) ∨ p = 7 := by omega
      rcases hcases with rfl | ⟨hlow, hhigh⟩ | rfl
      · exact htighter.andThen fun _ => (hT.branches hexpr).opt.map _
      · rw [levelParser_binary expr hlow hhigh, levelParser_binary expr' hlow hhigh]
        exact htighter.foldMany hle _ ((hT.spaced (hT.levelOp p)).below.pair htighter)
      · exact (hT.unaryOp.below.many hle).andThen fun _ => htighter.map _

end Levels

/-- Expressions that nest no less deep than the first text is long. -/
theorem expressionTo {m m' : Nat} (hm : k ≤ m) (hm' : k ≤ m') :
    Relates (Below k (InCode T final d)) (Below k (InCode T final d)) 0 (expressionTo m)
      (Script.expressionTo m') := by
  induction k generalizing d m m' with
  | zero => exact fun _ _ hcs => absurd hcs not_below_zero
  | succ k ih =>
      obtain ⟨m, rfl⟩ : ∃ i, m = i + 1 := ⟨m - 1, by omega⟩
      obtain ⟨m', rfl⟩ : ∃ i, m' = i + 1 := ⟨m' - 1, by omega⟩
      have hnested : ∀ d, Relates (Below k (InCode T final d)) (Below k (InCode T final d)) 0
          (Script.expressionTo m) (Script.expressionTo m') := fun d => ih (by omega) (by omega)
      exact hT.levelParser hnested 0

/-- Expressions agree on texts in code with a tail and without it. -/
theorem relates_expression :
    Relates (InCode T final d) (InCode T final d) 0 expression expression := fun _ _ hcs =>
  (hT.expressionTo (Nat.le_refl _) (Nat.succ_le_succ hcs.length_le)
    ⟨Nat.lt_succ_self _, hcs⟩).imp_right
      fun ⟨e, rest, rest', he, he', hrest, hlength⟩ => ⟨e, rest, rest', he, he', hrest.2, hlength⟩

end Tails

/-! ### Expressions -/

/-- There may be no tail anywhere. -/
theorem tails_nil (final : Place) : Tails (· = []) final where
  skip := by
    rintro _ rfl
    rfl
  head := by
    rintro _ rfl
    exact nofun

/-- The end of a block may be a tail where no brace is open. -/
theorem tails_brace : Tails (fun t => t = [' ', '\x7d'] ∨ t = ['\x7d']) (.code 0) where
  skip := by
    rintro _ (rfl | rfl) <;> exact .inr rfl
  head := by
    rintro _ (rfl | rfl) c hc <;> obtain rfl := Option.some.inj hc
    · exact ⟨rfl, .inl (by decide)⟩
    · exact ⟨rfl, .inr rfl⟩

/-- An expression closes the braces and the strings that it opens. -/
theorem after_of_expression {e : Expr} (h : expression cs = some (e, rest)) :
    (Place.code 0).after cs = (Place.code 0).after rest := by
  have hcs : InCode (· = []) ((Place.code 0).after cs) 0 cs cs :=
    ⟨rfl, [], rfl, (List.append_nil cs).symm⟩
  rcases (tails_nil _).relates_expression hcs with ⟨hnone, -⟩ | ⟨_, mid, _, he, -, hmid, -⟩
  · exact nomatch h.symm.trans hnone
  · obtain ⟨-, rfl⟩ := Prod.mk.inj (Option.some.inj (h.symm.trans he))
    exact hmid.1.symm

/-- An expression with nothing but blanks behind it is read in front of the end of a block. -/
theorem expression_append {e : Expr} (h : expression cs = some (e, rest))
    (hrest : Text.skipBlanks rest = []) : ∃ rest', expression (cs ++ [' ', '\x7d']) =
      some (e, rest') ∧ Text.skipBlanks rest' = ['\x7d'] := by
  have hafter : (Place.code 0).after cs = .code 0 :=
    (after_of_expression h).trans ((after_skipBlanks rest).symm.trans (by rw [hrest]; rfl))
  have hcs : InCode (fun t => t = [' ', '\x7d'] ∨ t = ['\x7d']) (.code 0) 0 cs
      (cs ++ [' ', '\x7d']) := ⟨hafter, _, .inl rfl, rfl⟩
  rcases tails_brace.relates_expression hcs with ⟨hnone, -⟩ | ⟨_, _, rest', he, he', hmid, -⟩
  · exact nomatch h.symm.trans hnone
  · obtain ⟨rfl, rfl⟩ := Prod.mk.inj (Option.some.inj (h.symm.trans he))
    obtain ⟨-, t, ht, rfl⟩ := hmid
    obtain ⟨gap, hgap, hblank⟩ := Text.exists_skipBlanks rest
    rw [hrest, List.append_nil] at hgap
    subst hgap
    refine ⟨_, he', ?_⟩
    rw [Text.skipBlanks_append hblank]
    rcases ht with rfl | rfl <;> decide

/-! ### Comments -/

/-- A scan that stands in a place reads characters of a zone. -/
inductive Place.InZone : Place → Zone → Prop
  | code (depth : Nat) : InZone (.code depth) .code
  | quoted (quote : Char) (depth : Nat) : InZone (.quoted quote depth) (.quoted quote)

/-- In code a quote starts a string, and everything else stays in code. -/
theorem Place.inZone_next (d : Nat) (c : Char) :
    InZone ((Place.code d).next c) (if c = '"' ∨ c = '\'' then .quoted c else .code) := by
  rw [Place.next]
  split
  · next hc =>
      subst hc
      exact .code _
  · split
    · next hc =>
        subst hc
        exact .code _
    · split
      · exact .quoted c d
      · exact .code d

/-- Code without comments that ends outside strings stays so in front of code. -/
theorem blankFrom_append {z : Zone} {s : Place} {d : Nat} (hz : s.InZone z)
    (hclean : blankFrom z cs = cs) (hafter : s.after cs = .code d)
    (htail : ∀ c ∈ tail.head?, c ≠ '/' ∧ c ≠ '*') :
    blankFrom z (cs ++ tail) = cs ++ blankFrom .code tail := by
  fun_induction blankFrom z cs generalizing s with
  | case1 z =>
      cases hz with
      | code => rfl
      | quoted => cases hafter
  | case2 cs => exact absurd (List.cons.inj hclean).1 (by decide)
  | case3 cs => exact absurd (List.cons.inj hclean).1 (by decide)
  | case4 c cs hline hblock ih =>
      cases hz with
      | code d =>
          have hrest := ih (Place.inZone_next d c) (List.cons.inj hclean).2 hafter
          have hstart : ∀ b, b = '/' ∨ b = '*' →
              ∀ cs', c = '/' → cs ++ tail = b :: cs' → False := by
            intro b hb cs' hc heq
            cases cs with
            | nil =>
                have hne := htail b (by rw [← List.nil_append tail, heq]; rfl)
                exact hb.elim hne.1 hne.2
            | cons b' cs =>
                obtain ⟨rfl, -⟩ := List.cons.inj heq
                rcases hb with rfl | rfl
                · exact hline cs hc rfl
                · exact hblock cs hc rfl
          rw [List.cons_append, blankFrom, hrest, List.cons_append]
          · exact hstart _ (.inl rfl)
          · exact hstart _ (.inr rfl)
  | case5 q c cs ih =>
      cases hz with
      | quoted q d =>
          have hrest := ih (.quoted q d) (List.cons.inj (List.cons.inj hclean).2).2 hafter
          rw [List.cons_append, List.cons_append, blankFrom, hrest, List.cons_append,
            List.cons_append]
  | case6 q c cs hback ih =>
      cases hz with
      | quoted q d =>
          have hne : c ≠ '\\' := by
            rintro rfl
            cases cs with
            | nil => cases hafter
            | cons c' cs => exact hback c' cs rfl rfl
          rw [Place.after, List.foldl_cons, Place.next, if_neg hne] at hafter
          have hzone : Place.InZone (if c = q then .code d else .quoted q d)
              (if c = q then .code else .quoted q) := by
            split
            · exact .code d
            · exact .quoted q d
          have hrest := ih hzone (List.cons.inj hclean).2 hafter
          rw [List.cons_append, blankFrom, hrest, List.cons_append]
          exact fun _ _ hc _ => hne hc
  | case7 | case8 | case9 | case10 => cases hz

end WidgetFlow.Script
