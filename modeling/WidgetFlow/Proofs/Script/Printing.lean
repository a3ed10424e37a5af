import WidgetFlow.Proofs.Script.Shape

/-!
# Expressions as text

`Expr.text` writes an expression with as few parentheses as its tree allows. Every form of
expression has a level, from the conditional expression (0) over the six levels of binary operators
and the prefix operators (7) to what is written without any operator (8), and an operand is put in
parentheses exactly where its level is below the one that its place asks for. The left operand of a
binary operator may be at the level of the operator, the right one is above it.

Texts and the keys of records are written in double quotes, with a backslash in front of a backslash
and of a double quote and no other escape.

## Main results

* `Expr.isPlain`: which expressions have such a text.
* `blankComments_text`: such a text has no comments, whatever its strings hold.
-/

namespace WidgetFlow.Script

/-! ### Levels -/

/-- The level of a binary operator. -/
def BinaryOp.level : BinaryOp → Nat
  | .or => 1
  | .and => 2
  | .eq | .ne | .strictEq | .strictNe => 3
  | .lt | .le | .gt | .ge => 4
  | .add | .sub => 5
  | .mul | .div | .rem => 6

/-- The sign of a prefix operator. -/
def UnaryOp.sign : UnaryOp → Char
  | .not => '!'
  | .neg => '-'

/-- The level of an expression. -/
def Expr.level : Expr → Nat
  | .cond _ _ _ => 0
  | .binary op _ _ => op.level
  | .unary _ _ => 7
  | _ => 8

/-! ### Texts -/

/-- A character of a string in double quotes. -/
def escaped (c : Char) : List Char := if c = '"' ∨ c = '\\' then ['\\', c] else [c]

/-- A string in double quotes. -/
def inQuotes (s : String) : List Char := '"' :: s.toList.flatMap escaped ++ ['"']

/-- Texts with commas between them. -/
def commas : List (List Char) → List Char
  | [] => []
  | t :: ts => t ++ ts.flatMap fun t => ',' :: ' ' :: t

/-- A text, in parentheses if its level is below the one asked for. -/
def grouped (asked level : Nat) (t : List Char) : List Char :=
  if level < asked then '(' :: t ++ [')'] else t

/-- The text of a literal that is null, a truth value or a string. -/
def literalText : Value → List Char
  | .null => "null".toList
  | .bool true => "true".toList
  | .bool false => "false".toList
  | .str s => inQuotes s
  | _ => []

mutual
/-- The characters of an expression, without parentheses around it. -/
def written : Expr → List Char
  | .literal v => literalText v
  | .array items => '[' :: commas (itemsWritten items) ++ [']']
  | .object entries => '\x7b' :: commas (entriesWritten entries) ++ ['\x7d']
  | .var name => name.toList
  | .member base name => grouped 8 base.level (written base) ++ '.' :: name.toList
  | .index base i => grouped 8 base.level (written base) ++ '[' :: written i ++ [']']
  | .call callee args =>
    grouped 8 callee.level (written callee) ++ '(' :: commas (itemsWritten args) ++ [')']
  | .unary op operand => op.sign :: grouped 7 operand.level (written operand)
  | .binary op left right =>
    grouped op.level left.level (written left) ++ ' ' :: op.sign.toList ++
      ' ' :: grouped (op.level + 1) right.level (written right)
  | .cond test yes no =>
    grouped 1 test.level (written test) ++ ' ' :: '?' :: ' ' :: written yes ++
      ' ' :: ':' :: ' ' :: written no
/-- The characters of each item of a list. -/
def itemsWritten : List Expr → List (List Char)
  | [] => []
  | e :: rest => written e :: itemsWritten rest
/-- The characters of each entry of a record. -/
def entriesWritten : List (String × Expr) → List (List Char)
  | [] => []
  | (key, e) :: rest => (inQuotes key ++ ':' :: ' ' :: written e) :: entriesWritten rest
end

/-- An expression as text. -/
def Expr.text (e : Expr) : String := String.ofList (written e)

/-- An expression where a level is asked for. -/
def Expr.writtenAt (asked : Nat) (e : Expr) : List Char := grouped asked e.level (written e)

/-! ### Plain expressions -/

/-- Whether a text is an identifier or a reserved word. -/
def isAnyName (s : String) : Bool :=
  match s.toList with
  | [] => false
  | c :: w => isNameStart c && w.all isNamePart

/-- Whether a value is written as a literal of one word or a string. -/
def isWordOrString : Value → Bool
  | .null => true
  | .bool _ => true
  | .str _ => true
  | _ => false

mutual
/-- Whether an expression has no literals but null, truth values and strings, and whether its
variables are called by identifiers and its members by identifiers or reserved words. -/
def Expr.isPlain : Expr → Bool
  | .literal v => isWordOrString v
  | .array items => itemsPlain items
  | .object entries => entriesPlain entries
  | .var name => isAnyName name && !reservedWords.contains name
  | .member base name => base.isPlain && isAnyName name
  | .index base i => base.isPlain && i.isPlain
  | .call callee args => callee.isPlain && itemsPlain args
  | .unary _ operand => operand.isPlain
  | .binary _ left right => left.isPlain && right.isPlain
  | .cond test yes no => test.isPlain && yes.isPlain && no.isPlain
/-- Whether all items of a list are plain. -/
def itemsPlain : List Expr → Bool
  | [] => true
  | e :: rest => e.isPlain && itemsPlain rest
/-- Whether all entries of a record are plain. -/
def entriesPlain : List (String × Expr) → Bool
  | [] => true
  | (_, e) :: rest => e.isPlain && entriesPlain rest
end

/-! ### No comments -/

/-- No comment starts in a text or at its end, and no string is left open. -/
def Clean (t : List Char) : Prop :=
  ∀ rest, blankFrom .code (t ++ rest) = t ++ blankFrom .code rest

namespace Clean

variable {t t' : List Char}

/-- Clean texts one after the other. -/
theorem append (h : Clean t) (h' : Clean t') : Clean (t ++ t') := by
  intro rest
  rw [List.append_assoc, h, h', List.append_assoc]

/-- A text in which no comment and no string starts. -/
theorem of_isPlain (h : t.all isPlain = true) : Clean t :=
  blankFrom_code_append (List.all_eq_true.mp h)

/-- A character behind which a clean text follows. -/
theorem cons {c : Char} (hc : isPlain c = true) (h : Clean t) : Clean (c :: t) :=
  append (blankFrom_code_append (List.forall_mem_singleton.mpr hc)) h

/-- A text in parentheses. -/
theorem grouped (h : Clean t) (asked level : Nat) : Clean (grouped asked level t) := by
  rw [Script.grouped]
  split
  · exact (h.cons (by decide)).append (of_isPlain (by decide))
  · exact h

/-- Texts with commas between them. -/
theorem commas {ts : List (List Char)} (h : ∀ t ∈ ts, Clean t) : Clean (commas ts) := by
  cases ts with
  | nil => exact fun rest => rfl
  | cons t ts =>
      refine (h t List.mem_cons_self).append ?_
      replace h := fun t ht => h t (List.mem_cons_of_mem _ ht)
      clear t
      induction ts with
      | nil => exact fun rest => rfl
      | cons t ts ih =>
          have ht : Clean (',' :: ' ' :: t) :=
            ((h t List.mem_cons_self).cons (by decide)).cons (by decide)
          exact ht.append (ih fun t ht => h t (List.mem_cons_of_mem _ ht))

end Clean

/-- A name is no comment and no string. -/
theorem isPlain_of_isNamePart {c : Char} (hc : isNamePart c = true) : isPlain c = true := by
  have hne : ∀ d ∈ ['/', '"', '\''], c ≠ d := by
    rintro d hd rfl
    have hall : ['/', '"', '\''].any isNamePart = false := by decide
    exact List.any_eq_false.mp hall c hd hc
  simp only [List.forall_mem_cons] at hne
  simp only [isPlain, Bool.and_eq_true, bne_iff_ne]
  exact ⟨⟨hne.1, hne.2.1⟩, hne.2.2.1⟩

/-- The characters of a name: one that may start a name, and others that may go on with it. -/
theorem exists_of_isAnyName {s : String} (h : isAnyName s = true) :
    ∃ c w, s.toList = c :: w ∧ isNameStart c = true ∧ ∀ d ∈ w, isNamePart d = true := by
  rw [isAnyName] at h
  split at h
  · exact nomatch h
  · next c w heq =>
      rw [Bool.and_eq_true] at h
      exact ⟨c, w, heq, h.1, List.all_eq_true.mp h.2⟩

/-- A name is clean. -/
theorem clean_name {s : String} (h : isAnyName s = true) : Clean s.toList := by
  obtain ⟨c, w, heq, hc, hw⟩ := exists_of_isAnyName h
  rw [heq]
  refine .of_isPlain (List.all_eq_true.mpr fun d hd => isPlain_of_isNamePart ?_)
  rcases List.mem_cons.mp hd with rfl | hd
  · exact isNamePart_of_isNameStart hc
  · exact hw d hd

/-- Whatever a string holds, it ends at its closing quote. -/
theorem clean_inQuotes (s : String) : Clean (inQuotes s) := by
  intro rest
  have hquoted : ∀ cs : List Char, blankFrom (.quoted '"') (cs.flatMap escaped ++ '"' :: rest) =
      cs.flatMap escaped ++ '"' :: blankFrom .code rest := by
    intro cs
    induction cs with
    | nil => rfl
    | cons c cs ih =>
        rw [List.flatMap_cons, List.append_assoc, escaped]
        split
        · simp only [List.cons_append, List.nil_append, blankFrom, ih]
        · next hc =>
            rw [not_or] at hc
            rw [List.singleton_append, blankFrom, if_neg hc.1, ih, List.append_assoc]
            · rfl
            · rintro c' cs' rfl
              exact fun _ => hc.2 rfl
  simp only [inQuotes, List.cons_append, List.append_assoc, List.nil_append]
  rw [blankFrom_code_cons (by decide), if_pos (Or.inl rfl), hquoted]

/-- An operator with blanks around it starts no comment. -/
theorem clean_sign (op : BinaryOp) : Clean (' ' :: op.sign.toList ++ [' ']) := by
  cases op with
  | div => exact fun rest => by simp [BinaryOp.sign, blankFrom]
  | _ => exact .of_isPlain (by decide)

mutual
/-- The text of an expression is clean. -/
theorem clean_written : ∀ {e : Expr}, e.isPlain = true → Clean (written e)
  | .literal v, h => by
      rw [written]
      match v, h with
      | .null, _ => exact .of_isPlain (by decide)
      | .bool true, _ => exact .of_isPlain (by decide)
      | .bool false, _ => exact .of_isPlain (by decide)
      | .str s, _ => exact clean_inQuotes s
  | .array items, h => by
      rw [written]
      have hitems := Clean.commas (clean_itemsWritten h)
      exact (hitems.cons (by decide)).append (.of_isPlain (by decide))
  | .object entries, h => by
      rw [written]
      exact ((Clean.commas (clean_entriesWritten h)).cons (by decide)).append
        (.of_isPlain (by decide))
  | .var name, h => by
      rw [written]
      rw [Expr.isPlain, Bool.and_eq_true] at h
      exact clean_name h.1
  | .member base name, h => by
      rw [written]
      rw [Expr.isPlain, Bool.and_eq_true] at h
      exact ((clean_written h.1).grouped _ _).append ((clean_name h.2).cons (by decide))
  | .index base i, h => by
      rw [written]
      rw [Expr.isPlain, Bool.and_eq_true] at h
      have hindex := ((clean_written h.2).cons (by decide : isPlain '[' = true)).append
        (.of_isPlain (by decide : [']'].all isPlain = true))
      simpa using ((clean_written h.1).grouped _ _).append hindex
  | .call callee args, h => by
      rw [written]
      rw [Expr.isPlain, Bool.and_eq_true] at h
      have hargs := ((Clean.commas (clean_itemsWritten h.2)).cons
        (by decide : isPlain '(' = true)).append
        (.of_isPlain (by decide : [')'].all isPlain = true))
      simpa using ((clean_written h.1).grouped _ _).append hargs
  | .unary op operand, h => by
      rw [written]
      rw [Expr.isPlain] at h
      exact ((clean_written h).grouped _ _).cons (by cases op <;> decide)
  | .binary op left right, h => by
      rw [written]
      rw [Expr.isPlain, Bool.and_eq_true] at h
      have hsign := ((clean_written h.1).grouped op.level left.level).append (clean_sign op)
      simpa using hsign.append ((clean_written h.2).grouped (op.level + 1) right.level)
  | .cond test yes no, h => by
      rw [written]
      simp only [Expr.isPlain, Bool.and_eq_true] at h
      have hyes : Clean (' ' :: '?' :: ' ' :: written yes) :=
        .append (.of_isPlain (by decide : [' ', '?', ' '].all isPlain = true))
          (clean_written h.1.2)
      have hno : Clean (' ' :: ':' :: ' ' :: written no) :=
        .append (.of_isPlain (by decide : [' ', ':', ' '].all isPlain = true))
          (clean_written h.2)
      simpa using (((clean_written h.1.1).grouped 1 test.level).append hyes).append hno
/-- The texts of the items of a list are clean. -/
theorem clean_itemsWritten : ∀ {items : List Expr}, itemsPlain items = true →
    ∀ t ∈ itemsWritten items, Clean t
  | [], _ => nofun
  | e :: rest, h => by
      rw [itemsPlain, Bool.and_eq_true] at h
      rw [itemsWritten]
      exact List.forall_mem_cons.mpr ⟨clean_written h.1, clean_itemsWritten h.2⟩
/-- The texts of the entries of a record are clean. -/
theorem clean_entriesWritten : ∀ {entries : List (String × Expr)}, entriesPlain entries = true →
    ∀ t ∈ entriesWritten entries, Clean t
  | [], _ => nofun
  | (key, e) :: rest, h => by
      rw [entriesPlain, Bool.and_eq_true] at h
      rw [entriesWritten]
      refine List.forall_mem_cons.mpr ⟨?_, clean_entriesWritten h.2⟩
      exact (clean_inQuotes key).append (((clean_written h.1).cons (by decide)).cons (by decide))
end

/-- The text of an expression has no comments. -/
theorem blankComments_text {e : Expr} (h : e.isPlain = true) :
    blankComments e.text.toList = written e := by
  have hclean := clean_written h []
  rw [List.append_nil] at hclean
  rw [blankComments, Expr.text, String.toList_ofList, hclean]
  exact List.append_nil _

end WidgetFlow.Script
