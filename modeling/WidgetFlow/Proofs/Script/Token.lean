import WidgetFlow.Proofs.Script.Printing

/-!
# Reading words, strings and marks

The other direction of the lemmas on lexical pieces: what a piece is written as is read as the
piece, up to where it ends, and where something else stands it is not read.

## Main results

* `keyword_name`, `literal_name`: a name is no keyword and no literal but the word that it is.
* `literal_literalText`: a literal is read where it is written.
* `between_marks`: what is read between two marks.
-/

namespace WidgetFlow.Script

open WidgetFlow.Parser

variable {c : Char} {cs rest : List Char}

/-! ### Words and strings -/

/-- A name is read up to where it ends. -/
theorem anyName_append {w : List Char} (hc : isNameStart c = true)
    (hw : ∀ d ∈ w, isNamePart d = true) (hrest : ∀ d ∈ rest.head?, isNamePart d = false) :
    anyName (c :: w ++ rest) = some (String.ofList (c :: w), rest) := by
  have hspan : (w ++ rest).span isNamePart = (w, rest) := by
    have hstop : rest.takeWhile isNamePart = [] ∧ rest.dropWhile isNamePart = rest := by
      cases rest with
      | nil => exact ⟨rfl, rfl⟩
      | cons d rest =>
          have hd := hrest d rfl
          simp [hd]
    rw [List.span_eq_takeWhile_dropWhile, List.takeWhile_append_of_pos hw,
      List.dropWhile_append_of_pos hw, hstop.1, hstop.2, List.append_nil]
  refine map_eq_some.mpr ⟨(c, w), pair_eq_some.mpr ⟨w ++ rest, ?_, ?_⟩, rfl⟩
  · exact satisfy_eq_some.mpr ⟨hc, rfl⟩
  · rw [takeWhile, hspan]

/-- No name is read where none starts. -/
theorem anyName_of_head (h : ∀ d ∈ cs.head?, isNameStart d = false) : anyName cs = none := by
  refine map_of_none (andThen_of_none ?_)
  cases cs with
  | nil => rfl
  | cons c cs => rw [satisfy, h c rfl]; rfl

/-- A character that starts a name is not blank. -/
theorem not_blank_of_isNameStart (hc : isNameStart c = true) : Text.isBlank c = false := by
  rw [Bool.eq_false_iff]
  intro hblank
  have hword := (Text.not_word_of_isBlank hblank).1
  simp only [isNameStart, Bool.or_eq_true, decide_eq_true_eq] at hc
  rw [Text.isAlphanumeric, Bool.or_eq_false_iff] at hword
  rcases hc with (hc | rfl) | rfl
  · exact absurd hc (Bool.eq_false_iff.mp hword.1)
  · exact absurd hblank (by decide)
  · exact absurd hblank (by decide)

/-- Digits stand among the first characters. -/
theorem exists_of_isDigit (h : c.isDigit = true) : ∃ n : Fin 58, Char.ofNat n = c := by
  simp only [Char.isDigit, Bool.and_eq_true, decide_eq_true_eq, UInt32.le_iff_toNat_le] at h
  exact ⟨⟨c.toNat, Nat.lt_succ_of_le h.2⟩, Char.ofNat_toNat c⟩

/-- A character that starts a name is no digit. -/
theorem not_digit_of_isNameStart (hc : isNameStart c = true) : c.isDigit = false := by
  rw [Bool.eq_false_iff]
  intro hdigit
  have hall : ∀ n : Fin 58, (Char.ofNat n).isDigit = true → isNameStart (Char.ofNat n) = false := by
    decide
  obtain ⟨n, rfl⟩ := exists_of_isDigit hdigit
  exact Bool.eq_false_iff.mp (hall n hdigit) hc

/-- A character that is neither blank nor the start of a literal. -/
def isMark (c : Char) : Bool :=
  !Text.isBlank c && !isNameStart c && !c.isDigit && c != '"' && c != '\''

/-- No number is read where no digit stands. -/
theorem numberLiteral_of_not_digit (h : c.isDigit = false) (cs : List Char) :
    numberLiteral (c :: cs) = none := by
  refine andThen_of_none ?_
  rw [digits, List.span_eq_takeWhile_dropWhile, List.takeWhile_cons_of_neg (by simp [h])]

/-- A character of a string in double quotes is read as it is written. -/
theorem quotedChar_escaped (c : Char) (cs : List Char) :
    quotedChar '"' (escaped c ++ cs) = some (c, cs) := by
  rw [escaped]
  split
  · next hc =>
      rcases hc with rfl | rfl
      · rfl
      · rfl
  · next hc =>
      rw [not_or] at hc
      rw [List.singleton_append, quotedChar, if_neg (by simp [hc])]
      rintro c' cs' rfl
      exact fun _ => hc.2 rfl

/-- A string is read where it is written in double quotes. -/
theorem stringLiteral_inQuotes (s : String) (rest : List Char) :
    stringLiteral (inQuotes s ++ rest) = some (s, rest) := by
  have hchars : ∀ (cs : List Char) (n : Nat), cs.length ≤ n →
      upTo (quotedChar '"') n (cs.flatMap escaped ++ '"' :: rest) = some (cs, '"' :: rest) := by
    intro cs
    induction cs with
    | nil =>
        intro n _
        cases n with
        | zero => rfl
        | succ n => rfl
    | cons c cs ih =>
        intro n hn
        obtain ⟨n, rfl⟩ : ∃ m, n = m + 1 := ⟨n - 1, by simp at hn; omega⟩
        have hcs := ih n (by simpa using hn)
        simp only [List.flatMap_cons, List.append_assoc, upTo, quotedChar_escaped, map, hcs]
  have hlength : s.toList.length ≤ (s.toList.flatMap escaped ++ '"' :: rest).length := by
    have hle : ∀ cs : List Char, cs.length ≤ (cs.flatMap escaped).length := by
      intro cs
      induction cs with
      | nil => exact Nat.le_refl _
      | cons c cs ih =>
          have hc : 1 ≤ (escaped c).length := by
            rw [escaped]
            split <;> simp
          simp only [List.flatMap_cons, List.length_append, List.length_cons]
          omega
    have := hle s.toList
    simp only [List.length_append]
    omega
  have hopen :
      char '"' (inQuotes s ++ rest) = some ('"', s.toList.flatMap escaped ++ '"' :: rest) := by
    refine char_eq_some.mpr ⟨rfl, ?_⟩
    simp [inQuotes]
  refine orElse_of_some (map_eq_some.mpr ⟨s.toList, ?_, String.ofList_toList⟩)
  refine skipRight_eq_some.mpr ⟨'"' :: rest, '"', skipLeft_eq_some.mpr ⟨'"', _, hopen, ?_⟩, ?_⟩
  · exact hchars s.toList _ hlength
  · exact char_eq_some.mpr ⟨rfl, rfl⟩

/-- A name that is written is read, up to where it ends. -/
theorem anyName_toList {s : String} (hs : isAnyName s = true)
    (hrest : ∀ d ∈ rest.head?, isNamePart d = false) :
    anyName (s.toList ++ rest) = some (s, rest) := by
  obtain ⟨c, w, heq, hc, hw⟩ := exists_of_isAnyName hs
  rw [heq, anyName_append hc hw hrest, ← heq, String.ofList_toList]

/-- A name starts with no blank. -/
theorem skipBlanks_name {s : String} (hs : isAnyName s = true) (rest : List Char) :
    Text.skipBlanks (s.toList ++ rest) = s.toList ++ rest := by
  obtain ⟨c, w, heq, hc, -⟩ := exists_of_isAnyName hs
  rw [heq, List.cons_append, Text.skipBlanks_cons (not_blank_of_isNameStart hc)]

/-- A name is a keyword if it is that word. -/
theorem keyword_name {s word : String} (hs : isAnyName s = true)
    (hrest : ∀ d ∈ rest.head?, isNamePart d = false) :
    keyword word (s.toList ++ rest) =
      if s = word then some ((), Text.skipBlanks rest) else none := by
  by_cases hword : s = word
  · subst hword
    simp [keyword, spaced, filterMap, skipBlanks_name hs, anyName_toList hs hrest]
  · simp [keyword, spaced, filterMap, skipBlanks_name hs, anyName_toList hs hrest, hword]

/-- No keyword is read where no name starts. -/
theorem keyword_mark {word : String} (hc : isNameStart c = false) (hblank : Text.isBlank c = false)
    (cs : List Char) : keyword word (c :: cs) = none := by
  rw [keyword, spaced, Text.skipBlanks_cons hblank, filterMap,
    anyName_of_head (by simpa using hc)]

/-- No string is read where no quote stands. -/
theorem stringLiteral_of_ne (hdouble : c ≠ '"') (hsingle : c ≠ '\'') (cs : List Char) :
    stringLiteral (c :: cs) = none := by
  have hquoted : ∀ quote, c ≠ quote → quoted quote (c :: cs) = none := fun quote hne =>
    map_of_none (andThen_of_none (andThen_of_none (by simp [char, satisfy, hne])))
  rw [stringLiteral, orElse_of_none (hquoted _ hdouble), hquoted _ hsingle]

/-- No literal is read where none starts. -/
theorem literal_mark (hc : isMark c = true) (cs : List Char) : literal (c :: cs) = none := by
  simp only [isMark, Bool.and_eq_true, Bool.not_eq_true', bne_iff_ne] at hc
  obtain ⟨⟨⟨⟨hblank, hname⟩, hdigit⟩, hdouble⟩, hsingle⟩ := hc
  refine choice_of_none ?_
  simp only [List.forall_mem_cons, List.not_mem_nil, false_imp_iff, implies_true, and_true]
  refine ⟨?_, ?_, ?_, ?_, ?_, ?_⟩
  · exact map_of_none (keyword_mark hname hblank cs)
  · exact map_of_none (keyword_mark hname hblank cs)
  · exact map_of_none (keyword_mark hname hblank cs)
  · exact map_of_none (keyword_mark hname hblank cs)
  · exact map_of_none (numberLiteral_of_not_digit hdigit cs)
  · exact map_of_none (stringLiteral_of_ne hdouble hsingle cs)

/-- The words that are literals. -/
def literalWords : List String := ["true", "false", "null", "undefined"]

/-- No literal is read where another name stands. -/
theorem literal_name {s : String} (hs : isAnyName s = true) (hother : s ∉ literalWords)
    (hrest : ∀ d ∈ rest.head?, isNamePart d = false) : literal (s.toList ++ rest) = none := by
  have hword : ∀ word ∈ literalWords, keyword word (s.toList ++ rest) = none := by
    intro word hword
    rw [keyword_name hs hrest, if_neg]
    rintro rfl
    exact hother hword
  obtain ⟨c, w, heq, hc, -⟩ := exists_of_isAnyName hs
  have hmarks : ['"', '\''].any isNameStart = false := by decide
  have hne : ∀ d ∈ ['"', '\''], c ≠ d := by
    rintro d hd rfl
    exact List.any_eq_false.mp hmarks c hd hc
  have hdigit : c.isDigit = false := not_digit_of_isNameStart hc
  refine choice_of_none ?_
  simp only [List.forall_mem_cons, List.not_mem_nil, false_imp_iff, implies_true, and_true]
  refine ⟨?_, ?_, ?_, ?_, ?_, ?_⟩
  · exact map_of_none (hword _ (by decide))
  · exact map_of_none (hword _ (by decide))
  · exact map_of_none (hword _ (by decide))
  · exact map_of_none (hword _ (by decide))
  · rw [heq]
    exact map_of_none (numberLiteral_of_not_digit hdigit _)
  · rw [heq]
    exact map_of_none (stringLiteral_of_ne (hne _ (by decide)) (hne _ (by decide)) _)

/-- A string is a literal where no word and no number stands. -/
theorem literal_string {s : String} (hword : ∀ word, keyword word cs = none)
    (hnumber : numberLiteral cs = none) (hstring : stringLiteral cs = some (s, rest)) :
    literal cs = some (.literal (.str s), rest) := by
  refine (orElse_of_none (map_of_none (hword "true"))).trans ?_
  refine (orElse_of_none (map_of_none (hword "false"))).trans ?_
  refine (orElse_of_none (map_of_none (hword "null"))).trans ?_
  refine (orElse_of_none (map_of_none (hword "undefined"))).trans ?_
  refine (orElse_of_none (map_of_none hnumber)).trans ?_
  exact orElse_of_some (map_of_some hstring)

/-- A literal is read where it is written. -/
theorem literal_literalText {v : Value} (hv : isWordOrString v = true)
    (hrest : ∀ d ∈ rest.head?, isNamePart d = false) :
    ∃ mid, literal (literalText v ++ rest) = some (.literal v, mid) ∧
      Text.skipBlanks mid = Text.skipBlanks rest := by
  have hname : ∀ word ∈ ["true", "false", "null"], isAnyName word = true := by decide
  have hsame : ∀ word ∈ ["true", "false", "null"],
      keyword word (word.toList ++ rest) = some ((), Text.skipBlanks rest) := fun word hword => by
    rw [keyword_name (hname word hword) hrest, if_pos rfl]
  have hother : ∀ word ∈ ["true", "false", "null"], ∀ word', word ≠ word' →
      keyword word' (word.toList ++ rest) = none := fun word hword word' hne => by
    rw [keyword_name (hname word hword) hrest, if_neg hne]
  have hskip := Text.skipBlanks_skipBlanks rest
  match v, hv with
  | .bool true, _ =>
      exact ⟨_, orElse_of_some (map_of_some (hsame "true" (by decide))), hskip⟩
  | .bool false, _ =>
      refine ⟨_, (orElse_of_none (map_of_none (hother "false" (by decide) _ (by decide)))).trans ?_,
        hskip⟩
      exact orElse_of_some (map_of_some (hsame "false" (by decide)))
  | .null, _ =>
      refine ⟨_, (orElse_of_none (map_of_none (hother "null" (by decide) _ (by decide)))).trans ?_,
        hskip⟩
      refine (orElse_of_none (map_of_none (hother "null" (by decide) _ (by decide)))).trans ?_
      exact orElse_of_some (map_of_some (hsame "null" (by decide)))
  | .str s, _ =>
      have hquote : isNameStart '"' = false := by decide
      have hword : ∀ word, keyword word (inQuotes s ++ rest) = none := fun word =>
        keyword_mark hquote (by decide) _
      have hnumber : numberLiteral (inQuotes s ++ rest) = none :=
        numberLiteral_of_not_digit (by decide) _
      exact ⟨rest, literal_string hword hnumber (stringLiteral_inQuotes s rest), rfl⟩

/-! ### Marks -/

/-- A mark is read with the blanks behind it. -/
theorem mark_self (hblank : Text.isBlank c = false) (cs : List Char) :
    mark c (c :: cs) = some (c, Text.skipBlanks cs) :=
  mark_eq_some.mpr ⟨rfl, cs, Text.skipBlanks_cons hblank, rfl⟩

/-- A mark is not read where another character stands. -/
theorem mark_of_ne {d : Char} (hblank : Text.isBlank c = false) (hne : c ≠ d) (cs : List Char) :
    mark d (c :: cs) = none := by
  rw [mark, spaced, Text.skipBlanks_cons hblank, char, satisfy, if_neg (by simpa using hne)]

section Between

variable {α : Type} {inner : Parser α} {a : α} {l r : Char}

/-- What is read between two marks. -/
theorem between_marks (hl : Text.isBlank l = false) (hr : Text.isBlank r = false)
    (hinner : inner (Text.skipBlanks cs) = some (a, r :: rest)) :
    between (mark l) (mark r) inner (l :: cs) = some (a, Text.skipBlanks rest) :=
  skipRight_eq_some.mpr ⟨r :: rest, r,
    skipLeft_eq_some.mpr ⟨l, _, mark_self hl cs, hinner⟩, mark_self hr rest⟩

/-- Nothing is read between two marks if the first one is missing. -/
theorem between_of_ne (hblank : Text.isBlank c = false) (hne : c ≠ l) (cs : List Char) :
    between (mark l) (mark r) inner (c :: cs) = none :=
  andThen_of_none (andThen_of_none (mark_of_ne hblank hne cs))

end Between

end WidgetFlow.Script
