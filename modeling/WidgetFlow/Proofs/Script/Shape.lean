import WidgetFlow.Proofs.Script.Lexeme
import WidgetFlow.Script.Shape

/-!
# The cheap tests of the shapes

A shape compiles only code that its test recognizes, so a test that misses code which the shape can
parse hides that code. The tests look at the text as it stands, with its comments, while the parsers
do not see the comments and have a wider notion of names. `PlainHead code` says that this makes no
difference for the part of the code in front of the first brace or arrow: no comment is there, the
first word is in ASCII, and no parenthesis stands right behind a `return`.

## Main results

* `compile_isOk_iff`: code compiles if and only if some shape both recognizes and parses it.
* `compile_plain`: code with a plain head compiles if and only if some shape parses it.
* `parsed_but_not_recognized`: without the condition there is code that a shape parses and that does
  not compile.
-/

namespace WidgetFlow.Script

open WidgetFlow.Parser

variable {c : Char} {cs tail : List Char}

/-! ### Comments -/

/-- Outside strings and comments only a slash can start a comment. -/
theorem blankFrom_code_cons (h : c ≠ '/') (cs : List Char) :
    blankFrom .code (c :: cs) =
      c :: blankFrom (if c = '"' ∨ c = '\'' then .quoted c else .code) cs := by
  rw [blankFrom]
  · exact fun _ hc _ => h hc
  · exact fun _ hc _ => h hc

/-- A character that starts neither a comment nor a string. -/
def isPlain (c : Char) : Bool := c != '/' && c != '"' && c != '\''

/-- In front of comments and strings nothing is blanked out. -/
theorem blankFrom_code_append {front : List Char} (h : ∀ c ∈ front, isPlain c = true)
    (cs : List Char) : blankFrom .code (front ++ cs) = front ++ blankFrom .code cs := by
  induction front with
  | nil => rfl
  | cons c front ih =>
      have hc := h c List.mem_cons_self
      simp only [isPlain, Bool.and_eq_true, bne_iff_ne] at hc
      rw [List.cons_append, blankFrom_code_cons hc.1.1,
        if_neg (not_or.mpr ⟨hc.1.2, hc.2⟩), ih fun c hm => h c (List.mem_cons_of_mem _ hm)]
      rfl

/-- What stands in front of the first brace or arrow. -/
def head (cs : List Char) : List Char := cs.takeWhile fun c => c != '\x7b' && c != '>'

/-- Whether a character may be in a head that parses: it is neither a brace nor the end of an arrow,
and starts no string. -/
def isHeadChar (c : Char) : Bool := c != '\x7b' && c != '>' && c != '"' && c != '\''

/-- A head goes on over such characters. -/
theorem head_append {front : List Char} (h : ∀ c ∈ front, isHeadChar c = true) (cs : List Char) :
    head (front ++ cs) = front ++ head cs :=
  List.takeWhile_append_of_pos fun c hc => by
    have hchar := h c hc
    simp only [isHeadChar, Bool.and_eq_true] at hchar
    exact Bool.and_eq_true _ _ ▸ hchar.1.1

/-- If there is no comment in the head of some code, then the code without its comments starts as
the code itself does, up to the end of the head and one character further. -/
theorem of_blankFrom_eq {front : List Char} (hfront : ∀ c ∈ front, isHeadChar c = true)
    (hhead : '/' ∉ head cs) (h : blankFrom .code cs = front ++ c :: tail) :
    ∃ tail', cs = front ++ c :: tail' := by
  induction front generalizing cs with
  | nil =>
      cases cs with
      | nil => exact nomatch h
      | cons d cs =>
          have hd : d ≠ '/' := by
            rintro rfl
            exact hhead List.mem_cons_self
          rw [blankFrom_code_cons hd] at h
          exact ⟨cs, by rw [(List.cons.inj h).1]; rfl⟩
  | cons d front ih =>
      cases cs with
      | nil => exact nomatch h
      | cons d' cs =>
          have hd' : d' ≠ '/' := by
            rintro rfl
            exact hhead List.mem_cons_self
          rw [blankFrom_code_cons hd'] at h
          obtain ⟨rfl, hcs⟩ := List.cons.inj h
          have hd := hfront d' List.mem_cons_self
          have hrest : '/' ∉ head cs := fun hm => hhead <| by
            rw [← List.singleton_append, head_append (List.forall_mem_singleton.mpr hd)]
            exact List.mem_append_right _ hm
          simp only [isHeadChar, Bool.and_eq_true, bne_iff_ne] at hd
          rw [if_neg (not_or.mpr ⟨hd.1.2, hd.2⟩)] at hcs
          obtain ⟨tail', rfl⟩ := ih (fun c hc => hfront c (List.mem_cons_of_mem _ hc)) hrest hcs
          exact ⟨tail', rfl⟩

/-! ### The tests -/

/-- An arrow follows behind blanks. -/
theorem arrowFollows_append {gap : List Char} (hgap : ∀ c ∈ gap, Text.isBlank c = true)
    (tail : List Char) : Shape.arrowFollows (gap ++ '=' :: '>' :: tail) = true := by
  rw [Shape.arrowFollows, Text.skipBlanks_append hgap, Text.skipBlanks_cons (by decide)]
  rfl

/-- The word `function` is recognized if no word goes on behind it. -/
theorem startsFunction_word (hc : Text.isWordChar c = false) (tail : List Char) :
    Shape.startsFunction ("function".toList ++ c :: tail) = true := by
  have hword : "function".toList.isPrefixOf ("function".toList ++ c :: tail) = true :=
    List.isPrefixOf_iff_prefix.mpr (List.prefix_append _ _)
  have hdrop : ("function".toList ++ c :: tail).drop "function".toList.length = c :: tail :=
    List.drop_left
  generalize "function".toList ++ c :: tail = cs at hword hdrop ⊢
  cases cs with
  | nil => exact nomatch hdrop
  | cons d cs =>
      rw [Shape.startsFunction, hword, hdrop, List.head?_cons, Option.map_some, Option.getD_some,
        hc]
      rfl

/-- Parameters with an arrow are recognized. -/
theorem startsFunction_parameters {inner gap : List Char} (hinner : ')' ∉ inner)
    (hgap : ∀ c ∈ gap, Text.isBlank c = true) (tail : List Char) :
    Shape.startsFunction ('(' :: inner ++ ')' :: gap ++ '=' :: '>' :: tail) = true := by
  have hdrop : (inner ++ ')' :: (gap ++ '=' :: '>' :: tail)).dropWhile (· != ')') =
      ')' :: (gap ++ '=' :: '>' :: tail) := by
    rw [List.dropWhile_append_of_pos fun c hc => bne_iff_ne.mpr (ne_of_mem_of_not_mem hc hinner)]
    exact List.dropWhile_cons_of_neg (by decide)
  rw [List.cons_append, List.cons_append, List.append_assoc, List.cons_append,
    Shape.startsFunction, hdrop]
  dsimp only
  rw [arrowFollows_append hgap]
  rfl

/-- What starts a name in ASCII is a letter, a low line or a dollar sign. -/
theorem asciiStart_of_isNameStart (hc : isNameStart c = true) (hascii : c.toNat < 128) :
    (('a' ≤ c && c ≤ 'z') || ('A' ≤ c && c ≤ 'Z') || c = '_' || c = '$') = true := by
  have hall : ∀ n : Fin 128, isNameStart (Char.ofNat n) = true →
      (('a' ≤ Char.ofNat n && Char.ofNat n ≤ 'z') || ('A' ≤ Char.ofNat n && Char.ofNat n ≤ 'Z') ||
        Char.ofNat n = '_' || Char.ofNat n = '$') = true := by decide +kernel
  have hchar := hall ⟨c.toNat, hascii⟩
  rw [Char.ofNat_toNat] at hchar
  exact hchar hc

/-- One name in ASCII with an arrow is recognized. -/
theorem startsFunction_name {w gap : List Char} (hc : isNameStart c = true)
    (hw : ∀ d ∈ w, isNamePart d = true) (hascii : ∀ d ∈ c :: w, d.toNat < 128)
    (hgap : ∀ c ∈ gap, Text.isBlank c = true) (tail : List Char) :
    Shape.startsFunction (c :: w ++ gap ++ '=' :: '>' :: tail) = true := by
  have hdrop : (w ++ (gap ++ '=' :: '>' :: tail)).dropWhile
      (fun c => Text.isWordChar c || c = '$') = gap ++ '=' :: '>' :: tail := by
    rw [List.dropWhile_append_of_pos fun d hd =>
      isWordChar_of_isNamePart (hw d hd) (hascii d (List.mem_cons_of_mem _ hd))]
    cases gap with
    | nil => exact List.dropWhile_cons_of_neg (by decide)
    | cons d gap =>
        have hd := hgap d List.mem_cons_self
        have hdollar : d ≠ '$' := by
          rintro rfl
          exact absurd hd (by decide)
        refine List.dropWhile_cons_of_neg ?_
        rw [(Text.not_word_of_isBlank hd).2, decide_eq_false hdollar]
        exact Bool.false_ne_true
  rw [List.cons_append, List.cons_append, List.append_assoc, Shape.startsFunction, hdrop,
    arrowFollows_append hgap, asciiStart_of_isNameStart hc (hascii c List.mem_cons_self)]
  exact Bool.or_true _

/-- The word `return` is recognized with a blank behind it. -/
theorem startsReturn_blank (hc : Text.isBlank c = true) (tail : List Char) :
    Shape.startsReturn ("return".toList ++ c :: tail) = true := by
  have hword : "return".toList.isPrefixOf ("return".toList ++ c :: tail) = true :=
    List.isPrefixOf_iff_prefix.mpr (List.prefix_append _ _)
  have hdrop : ("return".toList ++ c :: tail).drop "return".toList.length = c :: tail :=
    List.drop_left
  rw [Shape.startsReturn, hword, hdrop, List.head?_cons, Option.map_some, Option.getD_some, hc]
  rfl

/-! ### Plain heads -/

/-- Code whose head looks to the tests as it looks to the parsers. -/
structure PlainHead (code : String) : Prop where
  /-- No comment starts in the head. -/
  comment : '/' ∉ head (Text.skipBlanks code.toList)
  /-- The first word is in ASCII. -/
  ascii : ∀ c ∈ (Text.skipBlanks code.toList).takeWhile isNamePart, c.toNat < 128
  /-- A `return` has no parenthesis right behind it. -/
  gap : ¬ "return(".toList <+: Text.skipBlanks code.toList

/-- A character that passes a test which no brace, no end of an arrow and no quote passes may be in
a head. -/
theorem isHeadChar_of {test : Char → Bool} (hc : test c = true)
    (htest : (['\x7b', '>', '"', '\''].any test) = false) : isHeadChar c = true := by
  have hne : ∀ d ∈ ['\x7b', '>', '"', '\''], c ≠ d := by
    rintro d hd rfl
    exact List.any_eq_false.mp htest c hd hc
  simp only [List.forall_mem_cons] at hne
  simp only [isHeadChar, Bool.and_eq_true, bne_iff_ne]
  exact ⟨⟨⟨hne.1, hne.2.1⟩, hne.2.2.1⟩, hne.2.2.2.1⟩

/-- A blank may be in a head. -/
theorem isHeadChar_of_isBlank (hc : Text.isBlank c = true) : isHeadChar c = true :=
  isHeadChar_of hc (by decide)

/-- A part of a name may be in a head. -/
theorem isHeadChar_of_isNamePart (hc : isNamePart c = true) : isHeadChar c = true :=
  isHeadChar_of hc (by decide +kernel)

/-- What stands between the parentheses of parameters may be in a head. -/
theorem isHeadChar_of_isParameterChar (hc : isParameterChar c) : isHeadChar c = true := by
  rcases hc with hc | hc | rfl
  · exact isHeadChar_of_isBlank hc
  · exact isHeadChar_of_isNamePart hc
  · decide

/-- A blank starts neither a comment nor a string. -/
theorem isPlain_of_isBlank (hc : Text.isBlank c = true) : isPlain c = true := by
  have hne : c ≠ '/' := by
    rintro rfl
    exact absurd hc (by decide)
  have hhead := isHeadChar_of_isBlank hc
  simp only [isHeadChar, Bool.and_eq_true, bne_iff_ne] at hhead
  simp only [isPlain, Bool.and_eq_true, bne_iff_ne]
  exact ⟨⟨hne, hhead.1.2⟩, hhead.2⟩

/-- Without comments in the head, the first thing that parsers read is the first thing in the
code. -/
theorem skipBlanks_blankComments (hhead : '/' ∉ head (Text.skipBlanks cs)) :
    Text.skipBlanks (blankComments cs) = blankFrom .code (Text.skipBlanks cs) := by
  obtain ⟨gap, hcs, hgap⟩ := Text.exists_skipBlanks cs
  have hblank : blankComments cs = gap ++ blankFrom .code (Text.skipBlanks cs) := by
    rw [blankComments, ← blankFrom_code_append (fun c hc => isPlain_of_isBlank (hgap c hc)), ← hcs]
  rw [hblank, Text.skipBlanks_append hgap]
  cases h : Text.skipBlanks cs with
  | nil => rfl
  | cons c tail =>
      rw [h] at hhead
      have hc : c ≠ '/' := by
        rintro rfl
        exact hhead List.mem_cons_self
      have hfirst := List.head?_dropWhile_not Text.isBlank cs
      rw [← Text.skipBlanks, h] at hfirst
      rw [blankFrom_code_cons hc, Text.skipBlanks_cons hfirst]

namespace PlainHead

variable {code : String} {f : FunctionLit}

/-- What parsers find at the start of the code is there in the code. -/
theorem exists_tail (h : PlainHead code) {front : List Char}
    (hfront : ∀ c ∈ front, isHeadChar c = true)
    (hcs : Text.skipBlanks (blankComments code.toList) = front ++ c :: tail) :
    ∃ tail', Text.skipBlanks code.toList = front ++ c :: tail' := by
  rw [skipBlanks_blankComments h.comment] at hcs
  exact of_blankFrom_eq hfront h.comment hcs

/-- Code with a plain head that parses as a function literal is recognized as one. -/
theorem recognizes_function (h : PlainHead code) (hf : parseFunction code = some f) :
    Shape.function.recognizes code = true := by
  rw [Shape.recognizes]
  rcases functionLiteral_cases (run_eq_some.mp hf) with ⟨c, tail, hcs, hc⟩ |
    ⟨inner, gap, tail, hcs, hinner, hgap⟩ | ⟨c, w, gap, tail, hcs, hc, hw, hgap⟩
  · obtain ⟨tail', heq⟩ := h.exists_tail (List.all_eq_true.mp (by decide)) hcs
    rw [heq]
    refine startsFunction_word ?_ tail'
    rcases hc with hc | rfl
    · exact (Text.not_word_of_isBlank hc).2
    · decide +kernel
  · have hfront : ∀ c ∈ '(' :: inner ++ ')' :: gap ++ ['='], isHeadChar c = true := by
      simp only [List.forall_mem_append, List.forall_mem_cons]
      exact ⟨⟨⟨by decide, fun c hc => isHeadChar_of_isParameterChar (hinner c hc)⟩, by decide,
        fun c hc => isHeadChar_of_isBlank (hgap c hc)⟩, by decide, nofun⟩
    have hfound : Text.skipBlanks (blankComments code.toList) =
        '(' :: inner ++ ')' :: gap ++ ['='] ++ '>' :: tail := by
      rw [hcs, List.append_assoc _ ['=']]
      rfl
    obtain ⟨tail', heq⟩ := h.exists_tail hfront hfound
    have hclose : ')' ∉ inner := fun hm => by
      rcases hinner _ hm with hc | hc | hc
      · exact absurd hc (by decide)
      · exact absurd hc (by decide +kernel)
      · exact absurd hc (by decide)
    rw [heq, List.append_assoc _ ['=']]
    exact startsFunction_parameters hclose hgap tail'
  · have hname : ∀ d ∈ c :: w, isNamePart d = true :=
      List.forall_mem_cons.mpr ⟨isNamePart_of_isNameStart hc, hw⟩
    have hfront : ∀ d ∈ c :: w ++ gap ++ ['='], isHeadChar d = true := by
      simp only [List.forall_mem_append]
      exact ⟨⟨fun d hd => isHeadChar_of_isNamePart (hname d hd),
        fun d hd => isHeadChar_of_isBlank (hgap d hd)⟩, List.forall_mem_singleton.mpr (by decide)⟩
    have hfound : Text.skipBlanks (blankComments code.toList) =
        c :: w ++ gap ++ ['='] ++ '>' :: tail := by
      rw [hcs, List.append_assoc _ ['=']]
      rfl
    obtain ⟨tail', heq⟩ := h.exists_tail hfront hfound
    have hascii : ∀ d ∈ c :: w, d.toNat < 128 := fun d hd => h.ascii d <| by
      rw [heq, List.append_assoc, List.append_assoc, List.takeWhile_append_of_pos hname]
      exact List.mem_append_left _ hd
    rw [heq, List.append_assoc _ ['=']]
    exact startsFunction_name hc hw hascii hgap tail'

/-- Code with a plain head that parses as a `return` of a function literal is recognized as one. -/
theorem recognizes_wrapped (h : PlainHead code) (hf : parseWrapped code = some f) :
    Shape.wrapped.recognizes code = true := by
  rw [Shape.recognizes]
  obtain ⟨c, tail, hcs, hc⟩ := return_eq_some (run_eq_some.mp hf)
  obtain ⟨tail', heq⟩ := h.exists_tail (List.all_eq_true.mp (by decide)) hcs
  rcases hc with hc | rfl
  · rw [heq]
    exact startsReturn_blank hc tail'
  · refine absurd ?_ h.gap
    rw [heq]
    exact ⟨tail', rfl⟩

end PlainHead

/-! ### Compiling -/

/-- Code compiles if and only if some shape both recognizes and parses it. -/
theorem compile_isOk_iff (code : String) : (compile code).isOk = true ↔
    ∃ shape : Shape, shape.recognizes code = true ∧ (shape.compile? code).isSome = true := by
  have hall : ∀ shape : Shape, shape ∈ allShapes := by
    intro shape
    cases shape <;> decide
  have hfound : (compile code).isOk =
      ((allShapes.filter (·.recognizes code)).findSome? (·.compile? code)).isSome := by
    rw [compile, compileWith]
    split
    · next h => rw [h]; rfl
    · next h => rw [h]; rfl
  rw [hfound, List.findSome?_isSome_iff]
  exact ⟨fun ⟨shape, hshape, h⟩ => ⟨shape, (List.mem_filter.mp hshape).2, h⟩,
    fun ⟨shape, hrecognizes, h⟩ => ⟨shape, List.mem_filter.mpr ⟨hall shape, hrecognizes⟩, h⟩⟩

/-- A shape compiles what its parser parses. -/
theorem isSome_compile? (code : String) (shape : Shape) : (shape.compile? code).isSome =
    match shape with
    | .block => (parseProgram code).isSome
    | .function => (parseFunction code).isSome
    | .wrapped => (parseWrapped code).isSome := by
  cases shape <;> exact Option.isSome_map

/-- Code with a plain head compiles if and only if it parses as statements, as a function literal or
as a `return` of one; and each shape recognizes all such code that it parses. -/
theorem compile_plain (code : String) (h : PlainHead code) :
    ((compile code).isOk = true ↔ (parseProgram code).isSome = true ∨
      (parseFunction code).isSome = true ∨ (parseWrapped code).isSome = true) ∧
    ((parseFunction code).isSome = true → Shape.function.recognizes code = true) ∧
    ((parseWrapped code).isSome = true → Shape.wrapped.recognizes code = true) := by
  have hfunction (hf : (parseFunction code).isSome = true) :
      Shape.function.recognizes code = true :=
    have ⟨_, hf⟩ := Option.isSome_iff_exists.mp hf
    h.recognizes_function hf
  have hwrapped (hf : (parseWrapped code).isSome = true) : Shape.wrapped.recognizes code = true :=
    have ⟨_, hf⟩ := Option.isSome_iff_exists.mp hf
    h.recognizes_wrapped hf
  refine ⟨(compile_isOk_iff code).trans ⟨?_, ?_⟩, hfunction, hwrapped⟩
  · rintro ⟨shape, -, hparsed⟩
    rw [isSome_compile?] at hparsed
    cases shape with
    | block => exact .inl hparsed
    | function => exact .inr (.inl hparsed)
    | wrapped => exact .inr (.inr hparsed)
  · rintro (hparsed | hparsed | hparsed)
    · exact ⟨.block, rfl, (isSome_compile? code .block).trans hparsed⟩
    · exact ⟨.function, hfunction hparsed, (isSome_compile? code .function).trans hparsed⟩
    · exact ⟨.wrapped, hwrapped hparsed, (isSome_compile? code .wrapped).trans hparsed⟩

/-- Behind its head a function literal may have any comments. -/
theorem compile_arrow_with_comment :
    PlainHead "both => \x7b /* => */ return both \x7d" ∧
      (compile "both => \x7b /* => */ return both \x7d").isOk = true :=
  have hascii : ((Text.skipBlanks "both => \x7b /* => */ return both \x7d".toList).takeWhile
      isNamePart).all (fun c => c.toNat < 128) = true := by decide +kernel
  have hplain : PlainHead "both => \x7b /* => */ return both \x7d" :=
    ⟨by decide +kernel, fun c hc => of_decide_eq_true (List.all_eq_true.mp hascii c hc),
      by decide +kernel⟩
  ⟨hplain, (compile_plain _ hplain).1.mpr (.inr (.inl (by decide +kernel)))⟩

/-- Function literals that their parser accepts do not compile if a comment stands in front, if a
comment with a parenthesis stands between the parameters, if the one parameter is not in ASCII, or
if a parenthesis stands right behind the `return`. -/
theorem parsed_but_not_recognized :
    (∀ code ∈ ["// note\nfunction (e) \x7b return 1 \x7d", "(e /* ) */) => 1", "é => 1"],
      (parseFunction code).isSome = true ∧ (compile code).isOk = false) ∧
    (parseWrapped "return(e) => 1").isSome = true ∧ (compile "return(e) => 1").isOk = false := by
  decide +kernel

end WidgetFlow.Script
