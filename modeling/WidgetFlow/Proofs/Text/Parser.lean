import Mathlib.Data.List.TakeDrop
import Mathlib.Data.List.TakeWhile
import WidgetFlow.Text.Parser

/-!
# What parsers read

One lemma for each way of building a parser, which says when it succeeds. `Reads S p` says that all
that `p` takes are characters with the property `S`.

## Main results

* `andThen_eq_some`, `map_eq_some`, `orElse_eq_some` and their companions: a parser succeeds as its
  parts do.
* `Reads.andThen`, `Reads.separated`: a parser takes what its parts take.
* `ComesTo.start`, `ComesTo.step`, `ComesTo.stop`: how far a fold over a repeated parser has come.
-/

namespace WidgetFlow.Parser

variable {α β γ : Type} {p : Parser α} {q : Parser β} {cs rest : List Char} {a : α} {b : β}

/-! ### Success -/

/-- Two parsers in turn succeed if the first one does and then the second one. -/
theorem andThen_eq_some {f : α → Parser β} {r : β × List Char} :
    andThen p f cs = some r ↔ ∃ a mid, p cs = some (a, mid) ∧ f a mid = some r := by
  rw [andThen]
  cases h : p cs with
  | none => exact iff_of_false nofun fun ⟨_, _, h', _⟩ => nomatch h'
  | some r' =>
      obtain ⟨a, mid⟩ := r'
      refine ⟨fun hf => ⟨a, mid, rfl, hf⟩, fun ⟨a', mid', h', hf⟩ => ?_⟩
      obtain ⟨rfl, rfl⟩ := Prod.mk.inj (Option.some.inj h')
      exact hf

/-- A mapped parser succeeds if the parser does. -/
theorem map_eq_some {f : α → β} :
    map f p cs = some (b, rest) ↔ ∃ a, p cs = some (a, rest) ∧ f a = b := by
  rw [map]
  cases h : p cs with
  | none => exact iff_of_false nofun fun ⟨_, h', _⟩ => nomatch h'
  | some r =>
      obtain ⟨a, mid⟩ := r
      constructor
      · intro hr
        obtain ⟨rfl, rfl⟩ := Prod.mk.inj (Option.some.inj hr)
        exact ⟨a, rfl, rfl⟩
      · rintro ⟨a', h', rfl⟩
        obtain ⟨rfl, rfl⟩ := Prod.mk.inj (Option.some.inj h')
        rfl

/-- A filtered parser succeeds if the parser does and the filter keeps its result. -/
theorem filterMap_eq_some {f : α → Option β} :
    filterMap f p cs = some (b, rest) ↔ ∃ a, p cs = some (a, rest) ∧ f a = some b := by
  rw [filterMap]
  cases h : p cs with
  | none => exact iff_of_false nofun fun ⟨_, h', _⟩ => nomatch h'
  | some r =>
      obtain ⟨a, mid⟩ := r
      constructor
      · intro hr
        obtain ⟨b', hb', heq⟩ := Option.map_eq_some_iff.mp hr
        obtain ⟨rfl, rfl⟩ := Prod.mk.inj heq
        exact ⟨a, rfl, hb'⟩
      · rintro ⟨a', h', hb⟩
        obtain ⟨rfl, rfl⟩ := Prod.mk.inj (Option.some.inj h')
        change Option.map (fun b => (b, mid)) (f a) = _
        rw [hb]
        rfl

/-- What two parsers in turn give when only the second result counts. -/
theorem skipLeft_eq_some {r : β × List Char} :
    skipLeft p q cs = some r ↔ ∃ a mid, p cs = some (a, mid) ∧ q mid = some r :=
  andThen_eq_some

/-- What two parsers in turn give when only the first result counts. -/
theorem skipRight_eq_some :
    skipRight p q cs = some (a, rest) ↔ ∃ mid b, p cs = some (a, mid) ∧ q mid = some (b, rest) := by
  rw [skipRight, andThen_eq_some]
  constructor
  · rintro ⟨a', mid, hp, hq⟩
    obtain ⟨b, hb, rfl⟩ := map_eq_some.mp hq
    exact ⟨mid, b, hp, hb⟩
  · rintro ⟨mid, b, hp, hq⟩
    exact ⟨a, mid, hp, map_eq_some.mpr ⟨b, hq, rfl⟩⟩

/-- What two parsers in turn give when both results count. -/
theorem pair_eq_some :
    pair p q cs = some ((a, b), rest) ↔ ∃ mid, p cs = some (a, mid) ∧ q mid = some (b, rest) := by
  rw [pair, andThen_eq_some]
  constructor
  · rintro ⟨a', mid, hp, hq⟩
    obtain ⟨b', hb, heq⟩ := map_eq_some.mp hq
    obtain ⟨rfl, rfl⟩ := Prod.mk.inj heq
    exact ⟨mid, hp, hb⟩
  · rintro ⟨mid, hp, hq⟩
    exact ⟨a, mid, hp, map_eq_some.mpr ⟨b, hq, rfl⟩⟩

/-- A choice succeeds with one of its alternatives. -/
theorem of_orElse_eq_some {p' : Parser α} {r : α × List Char} (h : orElse p p' cs = some r) :
    p cs = some r ∨ p' cs = some r := by
  rw [orElse] at h
  split at h
  · exact .inr h
  · next hp => exact .inl (hp.trans h)

/-- An optional parser takes what the parser takes, or nothing. -/
theorem of_opt_eq_some {o : Option α} (h : opt p cs = some (o, rest)) :
    (∃ a, p cs = some (a, rest)) ∨ rest = cs := by
  rw [opt] at h
  split at h
  · obtain ⟨-, rfl⟩ := Prod.mk.inj (Option.some.inj h)
    exact .inr rfl
  · next a mid hp =>
      obtain ⟨-, rfl⟩ := Prod.mk.inj (Option.some.inj h)
      exact .inl ⟨a, hp⟩

/-- One character is read if it stands at the start and passes the test. -/
theorem satisfy_eq_some {test : Char → Bool} {c : Char} :
    satisfy test cs = some (c, rest) ↔ test c = true ∧ cs = c :: rest := by
  cases cs with
  | nil => exact iff_of_false nofun fun h => nomatch h.2
  | cons c' cs =>
      rw [satisfy, List.cons.injEq]
      split
      · next ht =>
          rw [Option.some.injEq, Prod.mk.injEq]
          exact ⟨fun ⟨hc, hr⟩ => ⟨hc ▸ ht, hc, hr⟩, And.right⟩
      · next ht => exact iff_of_false nofun fun ⟨hc, heq, _⟩ => ht (heq ▸ hc)

/-- One given character is read if it stands at the start. -/
theorem char_eq_some {c c' : Char} : char c cs = some (c', rest) ↔ c' = c ∧ cs = c' :: rest := by
  rw [char, satisfy_eq_some, decide_eq_true_eq]

/-- Given characters are read if they stand at the start. -/
theorem literal_eq_some {text : List Char} {u : Unit} :
    literal text cs = some (u, rest) ↔ cs = text ++ rest := by
  rw [literal]
  split
  · next h =>
      obtain ⟨tail, rfl⟩ := List.isPrefixOf_iff_prefix.mp h
      rw [List.drop_left, Option.some.injEq, Prod.mk.injEq, List.append_cancel_left_eq]
      exact and_iff_right rfl
  · next h =>
      refine iff_of_false nofun fun heq => h ?_
      rw [heq]
      exact List.isPrefixOf_iff_prefix.mpr (List.prefix_append text rest)

/-- A whole text is read if the parser leaves nothing. -/
theorem run_eq_some : run p cs = some a ↔ p cs = some (a, []) := by
  rw [run]
  split
  · next a' h => rw [h, Option.some.injEq, Option.some.injEq, Prod.mk.injEq, and_iff_left rfl]
  · next h => exact iff_of_false nofun fun ha => h a ha

/-! ### What is taken -/

/-- All that a parser takes are characters with a property. -/
def Reads (S : Char → Prop) (p : Parser α) : Prop :=
  ∀ ⦃cs a rest⦄, p cs = some (a, rest) → ∃ taken, cs = taken ++ rest ∧ ∀ c ∈ taken, S c

namespace Reads

variable {S : Char → Prop}

/-- One character that passes a test. -/
theorem satisfy {test : Char → Bool} (h : ∀ c, test c = true → S c) : Reads S (satisfy test) := by
  intro cs c rest hr
  obtain ⟨hc, rfl⟩ := satisfy_eq_some.mp hr
  exact ⟨[c], rfl, List.forall_mem_singleton.mpr (h c hc)⟩

/-- A run of characters that pass a test. -/
theorem takeWhile {test : Char → Bool} (h : ∀ c, test c = true → S c) :
    Reads S (takeWhile test) := by
  intro cs w rest hr
  have hspan := Option.some.inj hr
  rw [List.span_eq_takeWhile_dropWhile, Prod.mk.injEq] at hspan
  obtain ⟨rfl, rfl⟩ := hspan
  exact ⟨cs.takeWhile test, List.takeWhile_append_dropWhile.symm, fun c hc =>
    h c (List.mem_takeWhile_imp hc)⟩

/-- Two parsers in turn. -/
theorem andThen {f : α → Parser β} (hp : Reads S p) (hf : ∀ a, Reads S (f a)) :
    Reads S (andThen p f) := by
  intro cs b rest hr
  obtain ⟨a, mid, hpa, hfa⟩ := andThen_eq_some.mp hr
  obtain ⟨taken, rfl, htaken⟩ := hp hpa
  obtain ⟨taken', rfl, htaken'⟩ := hf a hfa
  exact ⟨taken ++ taken', (List.append_assoc _ _ _).symm, fun c hc =>
    (List.mem_append.mp hc).elim (htaken c) (htaken' c)⟩

/-- A mapped parser. -/
theorem map {f : α → β} (hp : Reads S p) : Reads S (map f p) := by
  intro cs b rest hr
  obtain ⟨a, hpa, -⟩ := map_eq_some.mp hr
  exact hp hpa

/-- A filtered parser. -/
theorem filterMap {f : α → Option β} (hp : Reads S p) : Reads S (filterMap f p) := by
  intro cs b rest hr
  obtain ⟨a, hpa, -⟩ := filterMap_eq_some.mp hr
  exact hp hpa

/-- What follows the first item of a separated list. -/
theorem separatedRest {item : Parser α} {separator : Parser β} (hitem : Reads S item)
    (hseparator : Reads S separator) (n : Nat) : Reads S (separatedRest item separator n) := by
  induction n with
  | zero =>
      intro cs items rest hr
      obtain ⟨-, rfl⟩ := Prod.mk.inj (Option.some.inj hr)
      exact ⟨[], rfl, nofun⟩
  | succ n ih =>
      intro cs items rest hr
      rw [Parser.separatedRest] at hr
      split at hr
      · obtain ⟨-, rfl⟩ := Prod.mk.inj (Option.some.inj hr)
        exact ⟨[], rfl, nofun⟩
      · next b mid hb =>
          obtain ⟨taken, rfl, htaken⟩ := hseparator hb
          split at hr
          · obtain ⟨-, rfl⟩ := Prod.mk.inj (Option.some.inj hr)
            exact ⟨taken, rfl, htaken⟩
          · next a mid' ha =>
              obtain ⟨taken', rfl, htaken'⟩ := hitem ha
              obtain ⟨taken'', rfl, htaken''⟩ := ih.map hr
              refine ⟨taken ++ taken' ++ taken'', by simp only [List.append_assoc], fun c hc => ?_⟩
              simp only [List.mem_append] at hc
              rcases hc with (hc | hc) | hc
              · exact htaken c hc
              · exact htaken' c hc
              · exact htaken'' c hc

/-- A separated list. -/
theorem separated {item : Parser α} {separator : Parser β} (hitem : Reads S item)
    (hseparator : Reads S separator) : Reads S (separated item separator) := by
  intro cs items rest hr
  rw [Parser.separated] at hr
  split at hr
  · obtain ⟨-, rfl⟩ := Prod.mk.inj (Option.some.inj hr)
    exact ⟨[], rfl, nofun⟩
  · next a mid ha =>
      obtain ⟨taken, rfl, htaken⟩ := hitem ha
      obtain ⟨taken', rfl, htaken'⟩ := (separatedRest hitem hseparator _).map hr
      exact ⟨taken ++ taken', (List.append_assoc _ _ _).symm, fun c hc =>
        (List.mem_append.mp hc).elim (htaken c) (htaken' c)⟩

end Reads

/-! ### Choice -/

/-- A choice is its second alternative where the first one fails. -/
theorem orElse_of_none {p' : Parser α} (h : p cs = none) : orElse p p' cs = p' cs := by
  rw [orElse, h]

/-- A choice is its first alternative where that succeeds. -/
theorem orElse_of_some {p' : Parser α} {r : α × List Char} (h : p cs = some r) :
    orElse p p' cs = some r := by
  rw [orElse, h]

/-- A choice fails where all its alternatives do. -/
theorem choice_of_none {ps : List (Parser α)} (h : ∀ p ∈ ps, p cs = none) :
    choice ps cs = none := by
  induction ps with
  | nil => rfl
  | cons p ps ih =>
      rw [choice, orElse_of_none (h p List.mem_cons_self)]
      exact ih fun p hp => h p (List.mem_cons_of_mem _ hp)

/-- Two parsers in turn fail where the first one does. -/
theorem andThen_of_none {f : α → Parser β} (h : p cs = none) : andThen p f cs = none := by
  rw [andThen, h]

/-- Two parsers in turn go on behind what the first one takes. -/
theorem andThen_of_some {f : α → Parser β} (h : p cs = some (a, rest)) :
    andThen p f cs = f a rest := by
  rw [andThen, h]

/-- A mapped parser fails where the parser does. -/
theorem map_of_none {f : α → β} (h : p cs = none) : map f p cs = none := by
  rw [map, h]

/-- A mapped parser maps what the parser reads. -/
theorem map_of_some {f : α → β} (h : p cs = some (a, rest)) : map f p cs = some (f a, rest) := by
  rw [map, h]

/-! ### Repetition -/

/-- Nothing is repeated where the parser fails. -/
theorem many_of_none (h : p cs = none) : many p cs = some ([], cs) := by
  rw [many]
  cases cs with
  | nil => rfl
  | cons c cs => simp only [List.length_cons, upTo, h]

/-- A repetition of a parser that takes one character goes on behind it. -/
theorem many_cons {c : Char} (h : p (c :: cs) = some (a, cs)) :
    many p (c :: cs) = map (a :: ·) (many p) cs := by
  simp only [many, List.length_cons, upTo, h, map]

/-- The result `r` of a fold is what remains to be done once the fold has come to `a` with the rest
`cs`: to fold more results onto `a`, at most `n` of them, which is no less than there are
characters. -/
def ComesTo (next : Parser β) (f : α → β → α) (r : Option (α × List Char)) (a : α)
    (cs : List Char) : Prop :=
  ∃ n, cs.length ≤ n ∧ r = map (fun bs => bs.foldl f a) (upTo next n) cs

namespace ComesTo

variable {first : Parser α} {next : Parser β} {f : α → β → α} {r : Option (α × List Char)}

/-- A fold comes to its first result. -/
theorem start (h : first cs = some (a, rest)) :
    ComesTo next f (foldMany first next f cs) a rest := by
  refine ⟨rest.length, Nat.le_refl _, ?_⟩
  rw [foldMany, andThen_of_some h]
  rfl

/-- A fold goes on with one more result. -/
theorem step (h : ComesTo next f r a cs) (hb : next cs = some (b, rest))
    (hlength : rest.length < cs.length) : ComesTo next f r (f a b) rest := by
  obtain ⟨n, hn, rfl⟩ := h
  obtain ⟨n, rfl⟩ : ∃ m, n = m + 1 := ⟨n - 1, by omega⟩
  refine ⟨n, by omega, ?_⟩
  simp only [map, upTo, hb]
  cases upTo next n rest with
  | none => rfl
  | some r => rfl

/-- A fold ends where nothing more can be read. -/
theorem stop (h : ComesTo next f r a cs) (hnone : next cs = none) : r = some (a, cs) := by
  obtain ⟨n, -, rfl⟩ := h
  cases n with
  | zero => rfl
  | succ n => simp only [map, upTo, hnone, List.foldl_nil]

end ComesTo

end WidgetFlow.Parser
