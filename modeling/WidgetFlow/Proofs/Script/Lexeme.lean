import WidgetFlow.Proofs.Text.Parser
import WidgetFlow.Script.Grammar

/-!
# What the lexical pieces of handler code read

Blanks, names and words, and what stands at the start of a function literal.

## Main results

* `keyword_eq_some`: a keyword is a whole word.
* `functionLiteral_cases`: a function literal starts with the word `function`, with parameters in
  parentheses and an arrow, or with one name and an arrow.
-/

namespace WidgetFlow

open WidgetFlow.Parser

/-! ### Characters -/

namespace Text

/-- What holds of every number in some ranges holds of a number that is in one of them. -/
theorem of_inRanges {P : Nat → Prop} {n : Nat} {ranges : List (Nat × Nat)}
    (hP : ∀ r ∈ ranges, ∀ k ∈ List.range (r.2 + 1 - r.1), P (r.1 + k))
    (h : inRanges n ranges = true) : P n := by
  induction ranges with
  | nil => exact nomatch h
  | cons r rest ih =>
      obtain ⟨lo, hi⟩ := r
      rw [inRanges] at h
      split at h
      · next hhi =>
          have hlo := of_decide_eq_true h
          have hn := hP (lo, hi) List.mem_cons_self (n - lo) (List.mem_range.mpr (by omega))
          rwa [Nat.add_sub_cancel' hlo] at hn
      · exact ih (fun r hr => hP r (List.mem_cons_of_mem _ hr)) h

variable {c : Char}

/-- A blank is neither a letter nor a digit nor another part of a word. -/
theorem not_word_of_isBlank (h : isBlank c = true) :
    isAlphanumeric c = false ∧ isWordChar c = false := by
  have hranges : inRanges c.toNat alphabeticRanges = false ∧
      inRanges c.toNat numericRanges = false ∧ inRanges c.toNat wordMarkRanges = false :=
    of_inRanges (P := fun n => inRanges n alphabeticRanges = false ∧
      inRanges n numericRanges = false ∧ inRanges n wordMarkRanges = false) (by decide +kernel) h
  rw [isAlphanumeric, isWordChar, isAlphabetic, hranges.1, hranges.2.1, hranges.2.2]
  exact ⟨rfl, rfl⟩

/-- Blanks in front are skipped only once. -/
theorem skipBlanks_skipBlanks (cs : List Char) : skipBlanks (skipBlanks cs) = skipBlanks cs := by
  rw [skipBlanks, skipBlanks]
  cases h : cs.dropWhile isBlank with
  | nil => rfl
  | cons c tail =>
      have hc := List.head?_dropWhile_not isBlank cs
      rw [h] at hc
      exact List.dropWhile_cons_of_neg (Bool.not_eq_true _ ▸ hc)

/-- The blanks in front, and what is left without them. -/
theorem exists_skipBlanks (cs : List Char) :
    ∃ gap, cs = gap ++ skipBlanks cs ∧ ∀ c ∈ gap, isBlank c = true :=
  ⟨cs.takeWhile isBlank, List.takeWhile_append_dropWhile.symm, fun _ hc =>
    List.mem_takeWhile_imp hc⟩

/-- Blanks in front of something do not count. -/
theorem skipBlanks_append {gap cs : List Char} (h : ∀ c ∈ gap, isBlank c = true) :
    skipBlanks (gap ++ cs) = skipBlanks cs :=
  List.dropWhile_append_of_pos h

/-- Without the blanks in front nothing is longer. -/
theorem length_skipBlanks_le (cs : List Char) : (skipBlanks cs).length ≤ cs.length :=
  (List.dropWhile_sublist isBlank).length_le

/-- Nothing is skipped in front of a character that is not blank. -/
theorem skipBlanks_cons {cs : List Char} (h : isBlank c = false) :
    skipBlanks (c :: cs) = c :: cs :=
  List.dropWhile_cons_of_neg (Bool.not_eq_true _ ▸ h)

end Text

namespace Script

variable {α : Type} {c : Char} {cs rest : List Char}

/-- What may start a name may go on with one. -/
theorem isNamePart_of_isNameStart (h : isNameStart c = true) : isNamePart c = true := by
  simp only [isNameStart, isNamePart, Text.isAlphanumeric, Bool.or_eq_true] at h ⊢
  tauto

/-- A part of a name in ASCII is a part of a word, or a dollar sign. -/
theorem isWordChar_of_isNamePart (h : isNamePart c = true) (hascii : c.toNat < 128) :
    (Text.isWordChar c || c = '$') = true := by
  have hall : ∀ n : Fin 128, isNamePart (Char.ofNat n) = true →
      (Text.isWordChar (Char.ofNat n) || decide (Char.ofNat n = '$')) = true := by decide +kernel
  have hc := hall ⟨c.toNat, hascii⟩
  rw [Char.ofNat_toNat] at hc
  exact hc h

/-! ### Pieces with blanks around them -/

/-- A spaced parser reads behind the blanks, and skips those behind it. -/
theorem spaced_eq_some {p : Parser α} {a : α} : spaced p cs = some (a, rest) ↔
    ∃ mid, p (Text.skipBlanks cs) = some (a, mid) ∧ rest = Text.skipBlanks mid := by
  rw [spaced]
  cases h : p (Text.skipBlanks cs) with
  | none => exact iff_of_false nofun fun ⟨_, h', _⟩ => nomatch h'
  | some r =>
      obtain ⟨a', mid⟩ := r
      constructor
      · intro hr
        obtain ⟨rfl, rfl⟩ := Prod.mk.inj (Option.some.inj hr)
        exact ⟨mid, rfl, rfl⟩
      · rintro ⟨mid', h', rfl⟩
        obtain ⟨rfl, rfl⟩ := Prod.mk.inj (Option.some.inj h')
        rfl

/-- A spaced parser takes blanks, and what the parser takes. -/
theorem reads_spaced {S : Char → Prop} (hblank : ∀ c, Text.isBlank c = true → S c) {p : Parser α}
    (hp : Reads S p) : Reads S (spaced p) := by
  intro cs a rest hr
  obtain ⟨mid, ha, rfl⟩ := spaced_eq_some.mp hr
  obtain ⟨gap, hcs, hgap⟩ := Text.exists_skipBlanks cs
  obtain ⟨taken, hmid, htaken⟩ := hp ha
  obtain ⟨gap', hrest, hgap'⟩ := Text.exists_skipBlanks mid
  refine ⟨gap ++ taken ++ gap', ?_, fun c hc => ?_⟩
  · rw [List.append_assoc, List.append_assoc, ← hrest, ← hmid, ← hcs]
  · simp only [List.mem_append] at hc
    rcases hc with (hc | hc) | hc
    · exact hblank c (hgap c hc)
    · exact htaken c hc
    · exact hblank c (hgap' c hc)

/-- A spaced character. -/
theorem mark_eq_some {c' : Char} : mark c cs = some (c', rest) ↔
    c' = c ∧ ∃ tail, Text.skipBlanks cs = c :: tail ∧ rest = Text.skipBlanks tail := by
  rw [mark, spaced_eq_some]
  constructor
  · rintro ⟨mid, h, rfl⟩
    obtain ⟨rfl, hcs⟩ := char_eq_some.mp h
    exact ⟨rfl, mid, hcs, rfl⟩
  · rintro ⟨rfl, tail, hcs, rfl⟩
    exact ⟨tail, char_eq_some.mpr ⟨rfl, hcs⟩, rfl⟩

/-! ### Names -/

/-- A name is read as far as it goes. -/
theorem anyName_eq_some {s : String} (h : anyName cs = some (s, rest)) :
    ∃ c w, s = String.ofList (c :: w) ∧ cs = c :: w ++ rest ∧ isNameStart c = true ∧
      (∀ d ∈ w, isNamePart d = true) ∧ ∀ d ∈ rest.head?, isNamePart d = false := by
  obtain ⟨⟨c, w⟩, hpair, rfl⟩ := map_eq_some.mp h
  obtain ⟨mid, hc, hw⟩ := pair_eq_some.mp hpair
  obtain ⟨hstart, rfl⟩ := satisfy_eq_some.mp hc
  have hspan := Option.some.inj hw
  rw [List.span_eq_takeWhile_dropWhile, Prod.mk.injEq] at hspan
  obtain ⟨rfl, rfl⟩ := hspan
  refine ⟨c, mid.takeWhile isNamePart, rfl, ?_, hstart, fun d hd => List.mem_takeWhile_imp hd,
    fun d hd => ?_⟩
  · rw [List.cons_append, List.takeWhile_append_dropWhile]
  · have hhead := List.head?_dropWhile_not isNamePart mid
    rw [Option.mem_def.mp hd] at hhead
    exact hhead

/-- A name that is no reserved word is a name. -/
theorem anyName_of_name {s : String} (h : name cs = some (s, rest)) :
    anyName cs = some (s, rest) := by
  obtain ⟨s', hname, hs⟩ := filterMap_eq_some.mp h
  split at hs
  · exact nomatch hs
  · obtain rfl := Option.some.inj hs
    exact hname

/-- A keyword is a whole word: what is behind it does not go on with a name. -/
theorem keyword_eq_some {word : String} {u : Unit} (h : keyword word cs = some (u, rest)) :
    ∃ tail, Text.skipBlanks cs = word.toList ++ tail ∧ rest = Text.skipBlanks tail ∧
      ∀ d ∈ tail.head?, isNamePart d = false := by
  obtain ⟨mid, hword, rfl⟩ := spaced_eq_some.mp h
  obtain ⟨s, hname, hs⟩ := filterMap_eq_some.mp hword
  split at hs
  · next heq =>
      subst heq
      obtain ⟨c, w, rfl, hcs, -, -, htail⟩ := anyName_eq_some hname
      exact ⟨mid, by rw [hcs, String.toList_ofList], rfl, htail⟩
  · exact nomatch hs

/-- A name takes parts of names. -/
theorem reads_name : Reads (fun c => isNamePart c = true) name :=
  .filterMap (.map (.andThen (.satisfy fun _ => isNamePart_of_isNameStart) fun _ =>
    .map (.takeWhile fun _ h => h)))

/-! ### Function literals -/

/-- Whether a character may stand between the parentheses of a parameter list. -/
def isParameterChar (c : Char) : Prop := Text.isBlank c = true ∨ isNamePart c = true ∨ c = ','

/-- Parameters are blanks, parts of names and commas in parentheses. -/
theorem parameters_eq_some {params : List String} (h : parameters cs = some (params, rest)) :
    ∃ inner tail, Text.skipBlanks cs = '(' :: inner ++ ')' :: tail ∧
      rest = Text.skipBlanks tail ∧ ∀ c ∈ inner, isParameterChar c := by
  obtain ⟨mid, _, hleft, hclose⟩ := skipRight_eq_some.mp h
  obtain ⟨_, mid', hopen, hparams⟩ := skipLeft_eq_some.mp hleft
  obtain ⟨-, tail, hcs, rfl⟩ := mark_eq_some.mp hopen
  obtain ⟨-, tail', hmid, rfl⟩ := mark_eq_some.mp hclose
  have hreads : Reads isParameterChar (separated (spaced name) (char ',')) :=
    .separated (reads_spaced (fun _ => .inl) fun _ _ _ hr =>
        (reads_name hr).imp fun _ ht => ht.imp_right fun ht c hc => .inr (.inl (ht c hc)))
      (.satisfy fun c hc => .inr (.inr (of_decide_eq_true hc)))
  obtain ⟨gap, htail, hgap⟩ := Text.exists_skipBlanks tail
  obtain ⟨taken, htaken, hinner⟩ := hreads hparams
  obtain ⟨gap', hmid', hgap'⟩ := Text.exists_skipBlanks mid
  refine ⟨gap ++ taken ++ gap', tail', ?_, rfl, fun c hc => ?_⟩
  · rw [hcs, htail, htaken, hmid', hmid]
    simp only [List.cons_append, List.append_assoc]
  · simp only [List.mem_append] at hc
    rcases hc with (hc | hc) | hc
    · exact .inl (hgap c hc)
    · exact hinner c hc
    · exact .inl (hgap' c hc)

/-- Some text behind its blanks starts like parameters or like a name. -/
def StartsOpen (cs : List Char) : Prop :=
  ∃ c tail, Text.skipBlanks cs = c :: tail ∧ (c = '(' ∨ isNameStart c = true)

/-- Behind a whole word, such a text starts with a blank or with the parameters. -/
theorem StartsOpen.behind_word (h : StartsOpen cs) (hword : ∀ d ∈ cs.head?, isNamePart d = false) :
    ∃ c tail, cs = c :: tail ∧ (Text.isBlank c = true ∨ c = '(') := by
  obtain ⟨c', tail', hcs, hc'⟩ := h
  cases cs with
  | nil => exact nomatch hcs
  | cons c tail =>
      refine ⟨c, tail, rfl, ?_⟩
      cases hblank : Text.isBlank c with
      | true => exact .inl rfl
      | false =>
          rw [Text.skipBlanks_cons hblank] at hcs
          obtain ⟨rfl, rfl⟩ := List.cons.inj hcs
          refine .inr (hc'.resolve_right fun hstart => ?_)
          exact absurd (isNamePart_of_isNameStart hstart)
            (Bool.eq_false_iff.mp (hword c rfl))

/-- Parameters start like parameters. -/
theorem startsOpen_of_parameters {params : List String}
    (h : parameters cs = some (params, rest)) : StartsOpen cs := by
  obtain ⟨inner, tail, hcs, -⟩ := parameters_eq_some h
  exact ⟨'(', inner ++ ')' :: tail, hcs, .inl rfl⟩

/-- A name with blanks around it, and what is behind it. -/
theorem spacedName_eq_some {s : String} (h : spaced name cs = some (s, rest)) :
    ∃ c w tail, Text.skipBlanks cs = c :: w ++ tail ∧ rest = Text.skipBlanks tail ∧
      isNameStart c = true ∧ ∀ d ∈ w, isNamePart d = true := by
  obtain ⟨tail, hname, rfl⟩ := spaced_eq_some.mp h
  obtain ⟨c, w, -, hcs, hc, hw, -⟩ := anyName_eq_some (anyName_of_name hname)
  exact ⟨c, w, tail, hcs, rfl, hc, hw⟩

/-- A function literal with the word `function` has a blank or its parameters behind the word. -/
theorem namedFunction_eq_some {f : FunctionLit} (h : namedFunction cs = some (f, rest)) :
    ∃ c tail, Text.skipBlanks cs = "function".toList ++ c :: tail ∧
      (Text.isBlank c = true ∨ c = '(') := by
  obtain ⟨⟨params, body⟩, hpair, -⟩ := map_eq_some.mp h
  obtain ⟨mid, hhead, -⟩ := pair_eq_some.mp hpair
  obtain ⟨_, mid', hword, hopen⟩ := skipLeft_eq_some.mp hhead
  obtain ⟨o, mid'', hname, hparams⟩ := skipLeft_eq_some.mp hopen
  obtain ⟨tail, hcs, rfl, htail⟩ := keyword_eq_some hword
  have hstarts : StartsOpen tail := by
    rcases of_opt_eq_some hname with ⟨s, hs⟩ | rfl
    · obtain ⟨c, w, tail', hw, -, hc, -⟩ := spacedName_eq_some hs
      rw [Text.skipBlanks_skipBlanks] at hw
      exact ⟨c, w ++ tail', hw, .inr hc⟩
    · obtain ⟨c, tail', hw, hc⟩ := startsOpen_of_parameters hparams
      rw [Text.skipBlanks_skipBlanks] at hw
      exact ⟨c, tail', hw, hc⟩
  obtain ⟨c, tail', rfl, hc⟩ := hstarts.behind_word htail
  exact ⟨c, tail', hcs, hc⟩

/-- An arrow, with the blanks in front of it. -/
theorem arrow_eq_some {u : Unit} (h : spaced (Parser.literal ['=', '>']) cs = some (u, rest)) :
    ∃ tail, Text.skipBlanks cs = '=' :: '>' :: tail := by
  obtain ⟨tail, harrow, -⟩ := spaced_eq_some.mp h
  exact ⟨tail, literal_eq_some.mp harrow⟩

/-- How a function literal starts: with the word `function`, with parameters and an arrow, or with
one name and an arrow. -/
theorem functionLiteral_cases {f : FunctionLit} (h : functionLiteral cs = some (f, rest)) :
    (∃ c tail, Text.skipBlanks cs = "function".toList ++ c :: tail ∧
      (Text.isBlank c = true ∨ c = '(')) ∨
    (∃ inner gap tail, Text.skipBlanks cs = '(' :: inner ++ ')' :: gap ++ '=' :: '>' :: tail ∧
      (∀ c ∈ inner, isParameterChar c) ∧ ∀ c ∈ gap, Text.isBlank c = true) ∨
    ∃ c w gap tail, Text.skipBlanks cs = c :: w ++ gap ++ '=' :: '>' :: tail ∧
      isNameStart c = true ∧ (∀ d ∈ w, isNamePart d = true) ∧ ∀ d ∈ gap, Text.isBlank d = true := by
  obtain ⟨_, _, hspaced, -⟩ := skipRight_eq_some.mp h
  obtain ⟨_, hliteral, -⟩ := spaced_eq_some.mp hspaced
  rcases of_orElse_eq_some hliteral with hnamed | harrow
  · obtain ⟨c, tail, hcs, hc⟩ := namedFunction_eq_some hnamed
    rw [Text.skipBlanks_skipBlanks] at hcs
    exact .inl ⟨c, tail, hcs, hc⟩
  · obtain ⟨⟨params, body⟩, hpair, -⟩ := map_eq_some.mp harrow
    obtain ⟨_, hhead, -⟩ := pair_eq_some.mp hpair
    obtain ⟨mid, _, hparams, hsign⟩ := skipRight_eq_some.mp hhead
    obtain ⟨tail, harrow⟩ := arrow_eq_some hsign
    rcases of_orElse_eq_some hparams with hparams | hname
    · obtain ⟨inner, tail', hcs, rfl, hinner⟩ := parameters_eq_some hparams
      obtain ⟨gap, htail, hgap⟩ := Text.exists_skipBlanks tail'
      rw [Text.skipBlanks_skipBlanks] at hcs harrow
      refine .inr (.inl ⟨inner, gap, tail, ?_, hinner, hgap⟩)
      rw [hcs, htail, harrow]
      simp only [List.cons_append, List.append_assoc]
    · obtain ⟨s, hs, -⟩ := map_eq_some.mp hname
      obtain ⟨c, w, tail', hcs, rfl, hc, hw⟩ := spacedName_eq_some hs
      obtain ⟨gap, htail, hgap⟩ := Text.exists_skipBlanks tail'
      rw [Text.skipBlanks_skipBlanks] at hcs harrow
      refine .inr (.inr ⟨c, w, gap, tail, ?_, hc, hw, hgap⟩)
      rw [hcs, htail, harrow]
      simp only [List.cons_append, List.append_assoc]

/-- A function literal starts like parameters or like a name. -/
theorem startsOpen_of_functionLiteral {f : FunctionLit}
    (h : functionLiteral cs = some (f, rest)) : StartsOpen cs := by
  rcases functionLiteral_cases h with ⟨c, tail, hcs, -⟩ | ⟨inner, gap, tail, hcs, -⟩ |
    ⟨c, w, gap, tail, hcs, hc, -⟩
  · exact ⟨'f', "unction".toList ++ c :: tail, hcs, .inr (by decide)⟩
  · exact ⟨'(', _, hcs, .inl rfl⟩
  · exact ⟨c, _, hcs, .inr hc⟩

/-- A `return` of a function literal has a blank or parameters behind the word. -/
theorem return_eq_some {f : FunctionLit}
    (h : spaced (skipLeft (keyword "return") functionLiteral) cs = some (f, rest)) :
    ∃ c tail, Text.skipBlanks cs = "return".toList ++ c :: tail ∧
      (Text.isBlank c = true ∨ c = '(') := by
  obtain ⟨_, hreturn, -⟩ := spaced_eq_some.mp h
  obtain ⟨_, mid, hword, hliteral⟩ := skipLeft_eq_some.mp hreturn
  obtain ⟨tail, hcs, rfl, htail⟩ := keyword_eq_some hword
  rw [Text.skipBlanks_skipBlanks] at hcs
  have hstarts : StartsOpen tail := by
    obtain ⟨c, tail', hw, hc⟩ := startsOpen_of_functionLiteral hliteral
    rw [Text.skipBlanks_skipBlanks] at hw
    exact ⟨c, tail', hw, hc⟩
  obtain ⟨c, tail', rfl, hc⟩ := hstarts.behind_word htail
  exact ⟨c, tail', hcs, hc⟩

end Script

end WidgetFlow
