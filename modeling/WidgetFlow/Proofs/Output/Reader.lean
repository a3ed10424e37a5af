import Mathlib.Data.List.Basic

/-!
# A reader of markup

A reader that knows what tags look like, but not what has been written. It goes through a text once,
from left to right, and is strict: outside of tags a `<` begins a tag, inside of tags a `"` begins
or ends a value and a `>` ends the tag, and wherever else one of the characters `<` and `>` comes up,
the reader refuses the text. It also refuses references other than the four that stand for
delimiters and for the ampersand, tags of another form, and tags that do not nest.

`Scan.Scans s cs ts s'` says that the reader gets from the state `s` to `s'` with the text `cs` and
reads the tokens `ts` on the way; such passages are put together by `Scans.append`. `nest` makes
trees of tokens.

## Main results

* `Scan.Scans.append`: one passage after another.
* `Scan.Step.of_step`: what one character can do.
* `Scan.Scans.counts`: in a text that can be read, every `<` begins a tag, every `>` ends one, and
  every `"` in a tag belongs to one of its values.
-/

namespace WidgetFlow.Markup

/-! ### Characters in turn -/

section Feed

variable {σ α : Type}

/-- Feeds characters in turn to a machine, which gives something for each of them, and may refuse
it. -/
def feed (step : σ → Char → Option (σ × List α)) (s : σ) : List Char → Option (σ × List α)
  | [] => some (s, [])
  | c :: rest => (step s c).bind fun r => (feed step r.1 rest).map fun r' => (r'.1, r.2 ++ r'.2)

variable {step : σ → Char → Option (σ × List α)} {s s' s'' : σ} {c : Char} {cs cs' : List Char}
  {out out' : List α}

/-- One character. -/
theorem feed_single (h : step s c = some (s', out)) : feed step s [c] = some (s', out) := by
  rw [feed, h, Option.bind_some, feed, Option.map_some, List.append_nil]

/-- A text that is accepted begins with a character that is accepted. -/
theorem feed_cons_inv (h : feed step s (c :: cs) = some (s'', out)) :
    ∃ s' first rest, step s c = some (s', first) ∧ feed step s' cs = some (s'', rest) ∧
      out = first ++ rest := by
  rw [feed] at h
  obtain ⟨⟨s', first⟩, hfirst, h⟩ := Option.bind_eq_some_iff.mp h
  obtain ⟨⟨last, rest⟩, hrest, heq⟩ := Option.map_eq_some_iff.mp h
  obtain ⟨rfl, rfl⟩ := Prod.mk.inj heq
  exact ⟨s', first, rest, hfirst, hrest, rfl⟩

/-- One text after another. -/
theorem feed_append (h : feed step s cs = some (s', out))
    (h' : feed step s' cs' = some (s'', out')) :
    feed step s (cs ++ cs') = some (s'', out ++ out') := by
  induction cs generalizing s out with
  | nil =>
      obtain ⟨rfl, rfl⟩ := Prod.mk.inj (Option.some.inj h)
      exact h'
  | cons c cs ih =>
      obtain ⟨next, first, rest, hfirst, hrest, rfl⟩ := feed_cons_inv h
      rw [List.cons_append, feed, hfirst, Option.bind_some, ih hrest, Option.map_some,
        List.append_assoc]

end Feed

/-! ### Tokens -/

/-- What stands in a tag that is not a closing one. -/
structure Tag where
  name : String
  attributes : List (String × String)
  hidden : Bool
deriving DecidableEq

/-- A piece of markup: a character that is no part of a tag, or a tag. -/
inductive Token where
  | char (c : Char)
  | opening (tag : Tag)
  | closing (name : String)
  | empty (tag : Tag)
deriving DecidableEq

/-- Whether a token is a tag. -/
def Token.isTag : Token → Bool
  | .char _ => false
  | _ => true

/-- How many `"` a tag takes: two for each value. -/
def Token.quotes : Token → Nat
  | .opening tag => 2 * tag.attributes.length
  | .empty tag => 2 * tag.attributes.length
  | _ => 0

/-- How many `"` stand in tags, that is, behind a `<` with no `>` in between. The first argument
says whether the text begins in a tag. -/
def quotesInTags : Bool → List Char → Nat
  | _, [] => 0
  | inTag, c :: rest =>
    if c = '<' then quotesInTags true rest
    else if c = '>' then quotesInTags false rest
    else (if inTag = true ∧ c = '"' then 1 else 0) + quotesInTags inTag rest

/-! ### Tags -/

/-- The name of an attribute, from what stands in front of its value. -/
def attributeName? : List Char → Option String
  | ' ' :: rest => if rest.getLast? = some '=' then some (String.ofList rest.dropLast) else none
  | _ => none

/-- The attributes of a tag, from their values, each with what stands in front of it. -/
def attributes? : List (List Char × List Char) → Option (List (String × String))
  | [] => some []
  | (before, value) :: rest =>
    match attributeName? before, attributes? rest with
    | some name, some attributes => some ((name, String.ofList value) :: attributes)
    | _, _ => none

/-- How a tag may end behind its attributes: whether this marks it hidden, and whether it closes
itself. -/
def tagEnds : List (List Char × Bool × Bool) :=
  [([], false, false), (['/'], false, true), (" hidden".toList, true, false),
    (" hidden/".toList, true, true)]

/-- The tag that consists of values, each with what stands in front of it, and of what stands behind
the last one. A tag without values is a closing one. -/
def tag? : List (List Char × List Char) → List Char → Option Token
  | [], '/' :: name => some (.closing (String.ofList name))
  | [], _ => none
  | (first, value) :: rest, behind =>
    let name := String.ofList (first.takeWhile (· ≠ ' '))
    match attributes? ((first.dropWhile (· ≠ ' '), value) :: rest), tagEnds.lookup behind with
    | some attributes, some (hidden, false) => some (.opening ⟨name, attributes, hidden⟩)
    | some attributes, some (hidden, true) => some (.empty ⟨name, attributes, hidden⟩)
    | _, _ => none

/-! ### Characters -/

/-- The references by name. -/
def references : List (List Char × Char) :=
  [("amp".toList, '&'), ("lt".toList, '<'), ("gt".toList, '>'), ("quot".toList, '"')]

/-- Reads one more character where a reference may stand, which is under way if there is a name;
gives what has been read to the end. -/
def decode : Option (List Char) → Char → Option (Option (List Char) × List Char)
  | none, c => if c = '&' then some (some [], []) else some (none, [c])
  | some name, c =>
    if c = ';' then (references.lookup name).map fun c => (none, [c])
    else some (some (name ++ [c]), [])

/-- Characters stand for a text, in which all references are replaced. -/
def StandsFor (cs text : List Char) : Prop := feed decode none cs = some (none, text)

/-- Characters after characters stand for one text after the other. -/
theorem StandsFor.append {cs cs' text text' : List Char} (h : StandsFor cs text)
    (h' : StandsFor cs' text') : StandsFor (cs ++ cs') (text ++ text') :=
  feed_append h h'

/-- No delimiter of tags or values stands among characters. -/
def Undelimited (cs : List Char) : Prop := '<' ∉ cs ∧ '>' ∉ cs ∧ '"' ∉ cs

instance : DecidablePred Undelimited := fun cs =>
  inferInstanceAs (Decidable ('<' ∉ cs ∧ '>' ∉ cs ∧ '"' ∉ cs))

/-- No delimiter stands among characters if the first one is none and none stands behind it. -/
theorem undelimited_cons {c : Char} {cs : List Char} :
    Undelimited (c :: cs) ↔ (c ≠ '<' ∧ c ≠ '>' ∧ c ≠ '"') ∧ Undelimited cs := by
  simp only [Undelimited, List.mem_cons, not_or]
  tauto

/-- No delimiter stands among characters behind characters. -/
theorem Undelimited.append {cs cs' : List Char} (h : Undelimited cs) (h' : Undelimited cs') :
    Undelimited (cs ++ cs') := by
  simp only [Undelimited, List.mem_append, not_or] at h h' ⊢
  tauto

/-- Where a reader stands: outside of tags, in a tag behind some values, or in a value. -/
inductive Scan where
  | content (reference? : Option (List Char))
  | tag (values : List (List Char × List Char)) (behind : List Char)
  | value (values : List (List Char × List Char)) (before read : List Char)
      (reference? : Option (List Char))
deriving DecidableEq

namespace Scan

/-- Whether a reader stands in a tag. -/
def inTag : Scan → Bool
  | .content _ => false
  | _ => true

/-- Reads one character. -/
def step : Scan → Char → Option (Scan × List Token)
  | .content reference?, c =>
    if c = '<' then if reference?.isNone then some (.tag [] [], []) else none
    else if c = '>' then none
    else (decode reference? c).map fun r => (.content r.1, r.2.map .char)
  | .tag values behind, c =>
    if c = '"' then some (.value values behind [] none, [])
    else if c = '<' then none
    else if c = '>' then (tag? values behind).map fun t => (.content none, [t])
    else some (.tag values (behind ++ [c]), [])
  | .value values before read reference?, c =>
    if c = '"' then
      if reference?.isNone then some (.tag (values ++ [(before, read)]) [], []) else none
    else if c = '<' ∨ c = '>' then none
    else (decode reference? c).map fun r => (.value values before (read ++ r.2) r.1, [])

/-- A text leads a reader from one state to another, and some tokens are read on the way. -/
def Scans (s : Scan) (cs : List Char) (ts : List Token) (s' : Scan) : Prop :=
  feed step s cs = some (s', ts)

variable {s s' s'' : Scan} {c : Char} {cs cs' : List Char} {ts ts' : List Token}

namespace Scans

/-- Without a text a reader stays where it is. -/
theorem nil (s : Scan) : s.Scans [] [] s := rfl

/-- One character. -/
theorem single (h : s.step c = some (s', ts)) : s.Scans [c] ts s' := feed_single h

/-- One text after another. -/
theorem append (h : s.Scans cs ts s') (h' : s'.Scans cs' ts' s'') :
    s.Scans (cs ++ cs') (ts ++ ts') s'' :=
  feed_append h h'

/-- Outside of tags a text without `<` and `>` is read as what it stands for. -/
theorem content {r r' : Option (List Char)} {text : List Char}
    (h : feed decode r cs = some (r', text)) (hlt : '<' ∉ cs) (hgt : '>' ∉ cs) :
    (content r).Scans cs (text.map .char) (content r') := by
  induction cs generalizing r text with
  | nil =>
      obtain ⟨rfl, rfl⟩ := Prod.mk.inj (Option.some.inj h)
      exact nil _
  | cons c rest ih =>
      rw [List.mem_cons, not_or] at hlt hgt
      obtain ⟨next, first, text', hfirst, hrest, rfl⟩ := feed_cons_inv h
      have hstep : (Scan.content r).step c = some (.content next, first.map .char) := by
        rw [step, if_neg (Ne.symm hlt.1), if_neg (Ne.symm hgt.1), hfirst, Option.map_some]
      rw [List.map_append]
      exact (single hstep).append (ih hrest hlt.2 hgt.2)

/-- In a value a text without delimiters is read as what it stands for. -/
theorem value {values : List (List Char × List Char)} {before got : List Char}
    {r r' : Option (List Char)} {text : List Char} (h : feed decode r cs = some (r', text))
    (hplain : Undelimited cs) :
    (value values before got r).Scans cs [] (value values before (got ++ text) r') := by
  induction cs generalizing r text got with
  | nil =>
      obtain ⟨rfl, rfl⟩ := Prod.mk.inj (Option.some.inj h)
      rw [List.append_nil]
      exact nil _
  | cons c rest ih =>
      obtain ⟨⟨hlt, hgt, hquot⟩, hplain⟩ := undelimited_cons.mp hplain
      obtain ⟨next, first, text', hfirst, hrest, rfl⟩ := feed_cons_inv h
      have hstep : (Scan.value values before got r).step c =
          some (.value values before (got ++ first) next, []) := by
        rw [step, if_neg hquot, if_neg (not_or.mpr ⟨hlt, hgt⟩), hfirst, Option.map_some]
      rw [← List.append_assoc]
      exact (single hstep).append (ih hrest hplain)

/-- In a tag a text without delimiters is kept as it is. -/
theorem tag {values : List (List Char × List Char)} {behind : List Char}
    (hplain : Undelimited cs) :
    (tag values behind).Scans cs [] (tag values (behind ++ cs)) := by
  induction cs generalizing behind with
  | nil =>
      rw [List.append_nil]
      exact nil _
  | cons c rest ih =>
      obtain ⟨⟨hlt, hgt, hquot⟩, hplain⟩ := undelimited_cons.mp hplain
      have hstep : (Scan.tag values behind).step c = some (.tag values (behind ++ [c]), []) := by
        rw [step, if_neg hquot, if_neg hlt, if_neg hgt]
      have hrest : (Scan.tag values (behind ++ [c])).Scans rest []
          (Scan.tag values (behind ++ [c] ++ rest)) := ih hplain
      rw [List.append_assoc, List.singleton_append] at hrest
      exact (single hstep).append hrest

end Scans

/-! ### Delimiters -/

/-- What one character can do to a reader. -/
inductive Step (c : Char) : Scan → List Token → Scan → Prop
  | begin (hc : c = '<') : Step c (.content none) [] (.tag [] [])
  | text (hlt : c ≠ '<') (hgt : c ≠ '>') (r r' : Option (List Char)) (text : List Char) :
      Step c (.content r) (text.map .char) (.content r')
  | quote (hc : c = '"') (values : List (List Char × List Char)) (behind : List Char) :
      Step c (.tag values behind) [] (.value values behind [] none)
  | complete (hc : c = '>') {values : List (List Char × List Char)} {behind : List Char} {t : Token}
      (ht : tag? values behind = some t) : Step c (.tag values behind) [t] (.content none)
  | behind (hlt : c ≠ '<') (hgt : c ≠ '>') (hquot : c ≠ '"')
      (values : List (List Char × List Char)) (behind : List Char) :
      Step c (.tag values behind) [] (.tag values (behind ++ [c]))
  | unquote (hc : c = '"') (values : List (List Char × List Char)) (before read : List Char) :
      Step c (.value values before read none) [] (.tag (values ++ [(before, read)]) [])
  | value (hlt : c ≠ '<') (hgt : c ≠ '>') (hquot : c ≠ '"')
      (values : List (List Char × List Char)) (before read read' : List Char)
      (r r' : Option (List Char)) :
      Step c (.value values before read r) [] (.value values before read' r')

/-- A character that is read does one of these things. -/
theorem Step.of_step (h : s.step c = some (s', ts)) : Step c s ts s' := by
  cases s with
  | content r =>
      simp only [step] at h
      split_ifs at h with hlt hdone hgt
      · obtain ⟨rfl, rfl⟩ := Prod.mk.inj (Option.some.inj h)
        obtain rfl := Option.isNone_iff_eq_none.mp hdone
        exact .begin hlt
      · obtain ⟨read, -, heq⟩ := Option.map_eq_some_iff.mp h
        obtain ⟨rfl, rfl⟩ := Prod.mk.inj heq
        exact .text hlt hgt r read.1 read.2
  | tag values behind =>
      simp only [step] at h
      split_ifs at h with hquot hlt hgt
      · obtain ⟨rfl, rfl⟩ := Prod.mk.inj (Option.some.inj h)
        exact .quote hquot values behind
      · obtain ⟨t, ht, heq⟩ := Option.map_eq_some_iff.mp h
        obtain ⟨rfl, rfl⟩ := Prod.mk.inj heq
        exact .complete hgt ht
      · obtain ⟨rfl, rfl⟩ := Prod.mk.inj (Option.some.inj h)
        exact .behind hlt hgt hquot values behind
  | value values before read r =>
      simp only [step] at h
      split_ifs at h with hquot hdone hdelimiter
      · obtain ⟨rfl, rfl⟩ := Prod.mk.inj (Option.some.inj h)
        obtain rfl := Option.isNone_iff_eq_none.mp hdone
        exact .unquote hquot values before read
      · obtain ⟨more, -, heq⟩ := Option.map_eq_some_iff.mp h
        obtain ⟨rfl, rfl⟩ := Prod.mk.inj heq
        rw [not_or] at hdelimiter
        exact .value hdelimiter.1 hdelimiter.2 hquot values before read _ r more.1

/-- As many attributes are read as there are values. -/
theorem length_of_attributes? {values : List (List Char × List Char)}
    {attributes : List (String × String)} (h : attributes? values = some attributes) :
    attributes.length = values.length := by
  induction values generalizing attributes with
  | nil =>
      obtain rfl := Option.some.inj h
      rfl
  | cons v rest ih =>
      rw [attributes?] at h
      split at h
      · next name more _ hmore =>
          obtain rfl := Option.some.inj h
          rw [List.length_cons, List.length_cons, ih hmore]
      · exact nomatch h

/-- What ends with a `>` is a tag, with two `"` for each value. -/
theorem of_tag? {values : List (List Char × List Char)} {behind : List Char} {t : Token}
    (h : tag? values behind = some t) : t.isTag = true ∧ t.quotes = 2 * values.length := by
  unfold tag? at h
  split at h
  · obtain rfl := Option.some.inj h
    exact ⟨rfl, rfl⟩
  · exact nomatch h
  · split at h
    · next hattributes _ =>
        have hlength := length_of_attributes? hattributes
        obtain rfl := Option.some.inj h
        exact ⟨rfl, congrArg (2 * ·) hlength⟩
    · next hattributes _ =>
        have hlength := length_of_attributes? hattributes
        obtain rfl := Option.some.inj h
        exact ⟨rfl, congrArg (2 * ·) hlength⟩
    · exact nomatch h

/-- How many `"` have been read in the tag in which a reader stands. -/
def quotes : Scan → Nat
  | .content _ => 0
  | .tag values _ => 2 * values.length
  | .value values _ _ _ => 2 * values.length + 1

/-- A `<` leads into a tag, a `>` out of it and completes it, and a `"` in it is one of its
values' own. -/
theorem Step.counts (h : Step c s ts s') (rest : List Char) :
    [c].count '<' + s.inTag.toNat = ts.countP Token.isTag + s'.inTag.toNat ∧
      [c].count '>' = ts.countP Token.isTag ∧
      quotesInTags s.inTag (c :: rest) + s.quotes =
        (ts.map Token.quotes).sum + s'.quotes + quotesInTags s'.inTag rest := by
  cases h with
  | begin hc =>
      subst hc
      exact ⟨rfl, rfl, (Nat.zero_add _).symm⟩
  | text hlt hgt r r' text =>
      simp [quotesInTags, quotes, inTag, hlt, hgt, Function.comp_def, Token.isTag, Token.quotes]
  | quote hc values behind =>
      subst hc
      simp [quotesInTags, quotes, inTag]
      omega
  | complete hc ht =>
      subst hc
      obtain ⟨htag, hquotes⟩ := of_tag? ht
      simp [quotesInTags, quotes, inTag, htag, hquotes]
      omega
  | behind hlt hgt hquot values behind =>
      simp [quotesInTags, quotes, inTag, hlt, hgt, hquot]
      omega
  | unquote hc values before read =>
      subst hc
      simp [quotesInTags, quotes, inTag]
      omega
  | value hlt hgt hquot values before read read' r r' =>
      simp [quotesInTags, quotes, inTag, hlt, hgt, hquot]
      omega

/-- **Every `<` begins a tag, every `>` ends one, and every `"` in a tag begins or ends a value of
it.** -/
theorem Scans.counts (h : s.Scans cs ts s') :
    cs.count '<' + s.inTag.toNat = ts.countP Token.isTag + s'.inTag.toNat ∧
      cs.count '>' = ts.countP Token.isTag ∧
      quotesInTags s.inTag cs + s.quotes = (ts.map Token.quotes).sum + s'.quotes := by
  induction cs generalizing s ts with
  | nil =>
      obtain ⟨rfl, rfl⟩ := Prod.mk.inj (Option.some.inj h)
      exact ⟨rfl, rfl, rfl⟩
  | cons c rest ih =>
      obtain ⟨next, ts₁, ts₂, hfirst, hrest, rfl⟩ := feed_cons_inv h
      obtain ⟨hlt, hgt, hquot⟩ := (Step.of_step hfirst).counts rest
      obtain ⟨hlt', hgt', hquot'⟩ := ih hrest
      have hcount : ∀ d, (c :: rest).count d = [c].count d + rest.count d := fun d => by
        rw [← List.count_append, List.singleton_append]
      rw [hcount, hcount, List.countP_append, List.map_append, List.sum_append]
      omega

end Scan

/-- The tokens of a text, which begins and ends outside of tags. -/
def scan (text : String) : Option (List Token) :=
  match feed Scan.step (.content none) text.toList with
  | some (.content none, tokens) => some tokens
  | _ => none

/-! ### Trees -/

/-- A tree that markup stands for: a character, or a node with its tag. -/
inductive Piece where
  | char (c : Char)
  | node (tag : Tag) (children : List Piece)

/-- Makes trees of tokens. The first argument lists the trees that are complete where the reader
stands, and the second one the tags that are open around it, the innermost first, each with the
trees in front of it. -/
def nestFrom : List Piece → List (Tag × List Piece) → List Token → Option (List Piece)
  | done, [], [] => some done
  | _, _ :: _, [] => none
  | done, around, .char c :: rest => nestFrom (done ++ [.char c]) around rest
  | done, around, .empty tag :: rest => nestFrom (done ++ [.node tag []]) around rest
  | done, around, .opening tag :: rest => nestFrom [] ((tag, done) :: around) rest
  | done, (tag, before) :: around, .closing name :: rest =>
    if tag.name = name then nestFrom (before ++ [.node tag done]) around rest else none
  | _, [], .closing _ :: _ => none

/-- The trees that tokens stand for, if all tags nest. -/
def nest (tokens : List Token) : Option (List Piece) := nestFrom [] [] tokens

/-- Reads markup. -/
def read (text : String) : Option (List Piece) := (scan text).bind nest

end WidgetFlow.Markup
