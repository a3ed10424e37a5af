import Mathlib.Data.List.DropRight
import Mathlib.Data.String.Basic
import WidgetFlow.Proofs.Script.Comment
import WidgetFlow.Script.Position

/-!
# Where a place of some code is once its comments are blanked out

Code is read with its comments blanked out, and a syntax error names a place of what is left by its
offset in bytes. Blanking out goes character by character and puts a single space in place of each,
however many bytes the character takes. So a place keeps its line, but its offset and its column
only as long as the characters blanked out in front of it take one byte each.

`blankings code` pairs each character of the code with what becomes of it. A place of the code is
the one behind a number of these pairs, and `Narrow` says of some of them that what they blank out
takes one byte.

## Main results

* `positionFrom_front`: line ends in front of a place count its line, and the bytes in front of it
  on this line its column.
* `narrow_blankings_iff`: nothing wide is blanked out if the comments of the code hold no character
  of more than one byte.
* `places_survive`: **a place survives exactly if nothing wide is blanked out in front of it.**
* `places_shift`: it does not behind a comment with an accented letter.
-/

namespace WidgetFlow.Script

variable {code : String} {cs : List Char} {k : Nat}

/-! ### Lines and columns -/

/-- The characters behind the last line end. -/
def lastLine (cs : List Char) : List Char := cs.rtakeWhile (· != '\n')

/-- Characters without a line end are on one line. -/
theorem lastLine_eq_self (h : '\n' ∉ cs) : lastLine cs = cs :=
  List.rtakeWhile_eq_self_iff.mpr fun _ hc => bne_iff_ne.mpr fun heq => h (heq ▸ hc)

/-- What stands in front of a line end is not on the last line. -/
theorem lastLine_cons_of_mem (h : '\n' ∈ cs) (c : Char) : lastLine (c :: cs) = lastLine cs := by
  have hshort : (cs.reverse.takeWhile (· != '\n')).length ≠ cs.reverse.length := fun hlen => by
    have hall := List.takeWhile_eq_self_iff.mp ((List.takeWhile_prefix _).eq_of_length hlen)
    exact absurd (hall '\n' (List.mem_reverse.mpr h)) (by decide)
  rw [lastLine, List.rtakeWhile, List.reverse_cons, List.takeWhile_append, if_neg hshort]
  rfl

/-- A line end is not on the last line. -/
theorem lastLine_newline (cs : List Char) : lastLine ('\n' :: cs) = lastLine cs := by
  by_cases h : '\n' ∈ cs
  · exact lastLine_cons_of_mem h '\n'
  · have hall : ∀ c ∈ cs.reverse, (c != '\n') = true := fun c hc =>
      bne_iff_ne.mpr fun heq => h (heq ▸ List.mem_reverse.mp hc)
    rw [lastLine_eq_self h, lastLine, List.rtakeWhile, List.reverse_cons,
      List.takeWhile_append_of_pos hall]
    simp

/-- **The position behind some characters**: their line ends count the lines, and the column is
counted on from the last of them, or from where it was. -/
theorem positionFrom_front (line column : Nat) (front rest : List Char) :
    positionFrom line column (String.utf8Len front) (front ++ rest) =
      (line + front.count '\n',
        (if '\n' ∈ front then 1 else column) + String.utf8Len (lastLine front)) := by
  induction front generalizing line column with
  | nil => cases rest <;> rfl
  | cons c front ih =>
      -- a character takes at least one byte, so that the offset is not used up
      obtain ⟨n, hn⟩ : ∃ n, String.utf8Len (c :: front) = n + 1 := by
        have hpos := c.utf8Size_pos
        exact Nat.exists_eq_succ_of_ne_zero (by rw [String.utf8Len_cons]; omega)
      have hrest : n + 1 - c.utf8Size = String.utf8Len front := by
        rw [← hn, String.utf8Len_cons, Nat.add_sub_cancel]
      rw [hn, List.cons_append, positionFrom, hrest, ih, ih]
      by_cases hc : c = '\n'
      · subst hc
        rw [if_pos rfl, ite_self, if_pos List.mem_cons_self, lastLine_newline,
          List.count_cons_self]
        congr 1
        omega
      · by_cases hfront : '\n' ∈ front
        · simp [hc, hfront, lastLine_cons_of_mem hfront]
        · have hall : '\n' ∉ c :: front := by simp [Ne.symm hc, hfront]
          rw [if_neg hc, if_neg hfront, if_neg hall, lastLine_eq_self hfront,
            lastLine_eq_self hall, String.utf8Len_cons, List.count_cons_of_ne hc]
          congr 1
          omega

/-- The byte offset of the place behind the first `k` characters of some code. -/
def offsetAt (code : String) (k : Nat) : Nat := String.utf8Len (code.toList.take k)

/-- The line and the column of the place behind the first `k` characters of some code. -/
theorem position_offsetAt (code : String) (k : Nat) : position code (offsetAt code k) =
    (1 + (code.toList.take k).count '\n',
      1 + String.utf8Len (lastLine (code.toList.take k))) := by
  have hfront := positionFrom_front 1 1 (code.toList.take k) (code.toList.drop k)
  rwa [List.take_append_drop, ite_self] at hfront

/-! ### Pairs of characters -/

/-- The characters of some code with what becomes of each when the comments are blanked out. -/
def blankings (code : String) : List (Char × Char) :=
  code.toList.zip (stripComments code).toList

/-- Each of the characters stays or becomes a space, and line ends stay. -/
def KeptAll (pairs : List (Char × Char)) : Prop := ∀ p ∈ pairs, Kept p.1 p.2

/-- Each of the characters that are blanked out takes one byte. -/
def Narrow (pairs : List (Char × Char)) : Prop := ∀ p ∈ pairs, p.1 ≠ p.2 → p.1.utf8Size = 1

variable {pairs : List (Char × Char)}

/-- A character that is blanked out takes no fewer bytes than the space, and as many if it takes
one. -/
theorem Kept.utf8Size {c d : Char} (h : Kept c d) :
    d.utf8Size ≤ c.utf8Size ∧ (d.utf8Size = c.utf8Size ↔ (c ≠ d → c.utf8Size = 1)) := by
  have hpos := c.utf8Size_pos
  have hspace : (' ' : Char).utf8Size = 1 := rfl
  rcases h.2 with rfl | rfl
  · simp
  · rw [hspace]
    refine ⟨hpos, fun h _ => h.symm, fun h => ?_⟩
    by_cases hc : c = ' '
    · rw [hc, hspace]
    · exact (h hc).symm

/-- What is left takes no more bytes than the code, and as many if nothing wide is blanked out. -/
theorem KeptAll.utf8Len (h : KeptAll pairs) :
    String.utf8Len (pairs.map (·.2)) ≤ String.utf8Len (pairs.map (·.1)) ∧
      (String.utf8Len (pairs.map (·.2)) = String.utf8Len (pairs.map (·.1)) ↔ Narrow pairs) := by
  induction pairs with
  | nil => simp [Narrow]
  | cons p rest ih =>
      obtain ⟨hfirst, hrest⟩ := List.forall_mem_cons.mp h
      obtain ⟨hle, heq⟩ := hfirst.utf8Size
      obtain ⟨hle', heq'⟩ := ih hrest
      rw [Narrow, List.forall_mem_cons, ← Narrow, ← heq, ← heq', List.map_cons, List.map_cons,
        String.utf8Len_cons, String.utf8Len_cons]
      omega

/-- What is kept of some pairs when the first are taken. -/
theorem KeptAll.take (h : KeptAll pairs) (k : Nat) : KeptAll (pairs.take k) :=
  fun p hp => h p (List.mem_of_mem_take hp)

/-- Line ends are kept, and no others are made. -/
theorem KeptAll.newline (h : KeptAll pairs) {p : Char × Char} (hp : p ∈ pairs) :
    (p.2 != '\n') = (p.1 != '\n') :=
  Bool.eq_iff_iff.mpr (by simpa using (h p hp).1.not.symm)

/-- There are as many line ends as before. -/
theorem KeptAll.count (h : KeptAll pairs) :
    (pairs.map (·.2)).count '\n' = (pairs.map (·.1)).count '\n' := by
  simp only [List.count, List.countP_map]
  exact List.countP_congr fun p hp => by simpa using (h p hp).1.symm

/-- The pairs behind the last line end. -/
def lastPairs (pairs : List (Char × Char)) : List (Char × Char) :=
  pairs.rtakeWhile (·.1 != '\n')

/-- The last line of some characters is that of their pairs. -/
theorem lastLine_map_fst (pairs : List (Char × Char)) :
    lastLine (pairs.map (·.1)) = (lastPairs pairs).map (·.1) := by
  rw [lastLine, List.rtakeWhile, ← List.map_reverse, List.takeWhile_map, ← List.map_reverse]
  rfl

/-- The last line of what is left is left of the last line. -/
theorem KeptAll.lastLine_map_snd (h : KeptAll pairs) :
    lastLine (pairs.map (·.2)) = (lastPairs pairs).map (·.2) := by
  have hsame : pairs.reverse.takeWhile (·.2 != '\n') = pairs.reverse.takeWhile (·.1 != '\n') := by
    have hall : ∀ p ∈ pairs.reverse, (p.2 != '\n') = (p.1 != '\n') := fun p hp =>
      h.newline (List.mem_reverse.mp hp)
    generalize pairs.reverse = reversed at hall
    induction reversed with
    | nil => rfl
    | cons p rest ih =>
        obtain ⟨hfirst, hrest⟩ := List.forall_mem_cons.mp hall
        rw [List.takeWhile_cons, List.takeWhile_cons, hfirst, ih hrest]
  rw [lastLine, List.rtakeWhile, ← List.map_reverse, List.takeWhile_map]
  change ((pairs.reverse.takeWhile (·.2 != '\n')).map (·.2)).reverse = _
  rw [hsame, ← List.map_reverse]
  rfl

/-- Pairs of the last line are pairs. -/
theorem mem_of_mem_lastPairs {p : Char × Char} (h : p ∈ lastPairs pairs) : p ∈ pairs :=
  List.mem_reverse.mp (List.takeWhile_subset _ (List.mem_reverse.mp h))

/-- What is kept of some pairs is kept of those of the last line. -/
theorem KeptAll.lastPairs (h : KeptAll pairs) : KeptAll (lastPairs pairs) :=
  fun p hp => h p (mem_of_mem_lastPairs hp)

/-- Where nothing wide is blanked out, every offset has the position that it had. -/
theorem KeptAll.positionFrom (h : KeptAll pairs) (hnarrow : Narrow pairs)
    (line column offset : Nat) : positionFrom line column offset (pairs.map (·.2)) =
      positionFrom line column offset (pairs.map (·.1)) := by
  induction pairs generalizing line column offset with
  | nil => rfl
  | cons p rest ih =>
      obtain ⟨hfirst, hrest⟩ := List.forall_mem_cons.mp h
      obtain ⟨hsize, hnarrow⟩ := List.forall_mem_cons.mp hnarrow
      cases offset with
      | zero => rfl
      | succ offset =>
          rw [List.map_cons, List.map_cons, Script.positionFrom, Script.positionFrom,
            hfirst.utf8Size.2.mpr hsize, ih hrest hnarrow, ih hrest hnarrow]
          simp only [hfirst.1]

/-! ### The pairs of some code -/

/-- The first of each pair are the characters of the code. -/
theorem map_fst_blankings (code : String) : (blankings code).map (·.1) = code.toList := by
  refine List.map_fst_zip (Nat.le_of_eq ?_)
  rw [stripComments, String.toList_ofList]
  exact (kept_blankComments code.toList).length_eq

/-- The second of each pair are the characters that are left. -/
theorem map_snd_blankings (code : String) :
    (blankings code).map (·.2) = (stripComments code).toList := by
  refine List.map_snd_zip (Nat.le_of_eq ?_)
  rw [stripComments, String.toList_ofList]
  exact (kept_blankComments code.toList).length_eq.symm

/-- Each character of the code stays or becomes a space. -/
theorem keptAll_blankings (code : String) : KeptAll (blankings code) := by
  rintro ⟨c, d⟩ hp
  rw [blankings, stripComments, String.toList_ofList] at hp
  exact (List.forall₂_iff_zip.mp (kept_blankComments code.toList)).2 hp

/-- A place of the code, by the pairs in front of it. -/
theorem offsetAt_eq (code : String) (k : Nat) :
    offsetAt code k = String.utf8Len (((blankings code).take k).map (·.1)) := by
  rw [offsetAt, List.map_take, map_fst_blankings]

/-- The same place in what is left of the code. -/
theorem offsetAt_stripComments (code : String) (k : Nat) : offsetAt (stripComments code) k =
    String.utf8Len (((blankings code).take k).map (·.2)) := by
  rw [offsetAt, List.map_take, map_snd_blankings]

/-- A character that is blanked out into itself takes one byte. -/
theorem utf8Size_of_blank {c : Char} (h : c = blank c) : c.utf8Size = 1 := by
  rw [h, blank]
  split <;> rfl

/-- Nothing wide is blanked out of a piece unless it is a comment that holds something wide. -/
theorem Piece.narrow_iff (p : Piece) : Narrow (p.written.zip p.blanked) ↔
    (p.isComment = true → ∀ c ∈ p.written, c.utf8Size = 1) := by
  have hzip : ∀ f : Char → Char,
      p.written.zip (p.written.map f) = p.written.map fun c => (c, f c) :=
    fun f => by simpa using List.zip_map' (f := id) (g := f) (l := p.written)
  rw [blanked, Narrow]
  by_cases hcomment : p.isComment = true
  · rw [if_pos hcomment, hzip, List.forall_mem_map]
    refine ⟨fun h _ c hc => ?_, fun h c hc _ => h hcomment c hc⟩
    by_cases hsame : c = blank c
    · exact utf8Size_of_blank hsame
    · exact h c hc hsame
  · rw [if_neg hcomment]
    refine iff_of_true (fun q hq hne => ?_) fun h => absurd h hcomment
    have hself := hzip id
    rw [List.map_id] at hself
    obtain ⟨c, -, rfl⟩ := List.mem_map.mp (hself ▸ hq)
    exact absurd rfl hne

/-- Nothing wide is blanked out of pieces if the comments among them hold nothing wide. -/
theorem Pieces.narrow_iff {ps : List Piece} (h : Pieces cs ps) :
    Narrow (cs.zip (blankComments cs)) ↔
      ∀ p ∈ ps, p.isComment = true → ∀ c ∈ p.written, c.utf8Size = 1 := by
  rw [blankComments_of_pieces h]
  induction h with
  | nil => simp [Narrow]
  | @cons p rest ps hp hrest ih =>
      rw [List.flatMap_cons, List.zip_append p.kept.length_eq, Narrow, List.forall_mem_append,
        ← Narrow, ← Narrow, p.narrow_iff, ih, List.forall_mem_cons]

/-- **Nothing wide is blanked out exactly if the comments of the code hold nothing wide.** -/
theorem narrow_blankings_iff : Narrow (blankings code) ↔ ∀ ps, Pieces code.toList ps →
    ∀ p ∈ ps, p.isComment = true → ∀ c ∈ p.written, c.utf8Size = 1 := by
  obtain ⟨ps, hps, hunique⟩ := Pieces.exists_unique code.toList
  rw [blankings, stripComments, String.toList_ofList, hps.narrow_iff]
  exact ⟨fun h ps' hps' => hunique ps' hps' ▸ h, fun h => h ps hps⟩

/-! ### Places -/

/-- A place has no higher offset than before, and the same one if nothing wide is blanked out in
front of it. -/
theorem offset_survives (code : String) (k : Nat) :
    offsetAt (stripComments code) k ≤ offsetAt code k ∧
      (offsetAt (stripComments code) k = offsetAt code k ↔ Narrow ((blankings code).take k)) := by
  rw [offsetAt_stripComments, offsetAt_eq]
  exact ((keptAll_blankings code).take k).utf8Len

/-- A place is on the same line as before, and at the same column if nothing wide is blanked out in
front of it on this line. -/
theorem position_survives (code : String) (k : Nat) :
    let before := position code (offsetAt code k)
    let after := position (stripComments code) (offsetAt (stripComments code) k)
    after.1 = before.1 ∧ after.2 ≤ before.2 ∧
      (after.2 = before.2 ↔ Narrow (lastPairs ((blankings code).take k))) := by
  have hkept := (keptAll_blankings code).take k
  have hline := hkept.lastPairs.utf8Len
  rw [← hkept.lastLine_map_snd, ← lastLine_map_fst, List.map_take, List.map_take,
    map_fst_blankings, map_snd_blankings] at hline
  have hcount := hkept.count
  rw [List.map_take, List.map_take, map_fst_blankings, map_snd_blankings] at hcount
  simp only [position_offsetAt, hcount, Nat.add_le_add_iff_left, Nat.add_left_cancel_iff]
  exact ⟨trivial, hline⟩

/-- An error is described by its position. -/
theorem SyntaxError.describe_congr {code' : String} {e : SyntaxError}
    (h : position code e.start = position code' e.start) : e.describe code = e.describe code' := by
  rw [describe, describe, h]

/-- Pairs of the last line blank out nothing wide if none of all does. -/
theorem Narrow.lastPairs (h : Narrow pairs) : Narrow (lastPairs pairs) :=
  fun p hp => h p (mem_of_mem_lastPairs hp)

/-- **A place survives exactly if nothing wide is blanked out in front of it.** Every character of
the code is still there or has become a space. A place behind some of them stays on its line, and
its offset and its column do not grow; the offset stays the same exactly if each character blanked
out in front of the place takes one byte, and the column exactly if this is so on the line. Where
the offset stays the same, an error at the place names it in the code as well, and is described
alike in both. The code keeps its size exactly if its comments hold no character of more than one
byte; then all errors, wherever they are, are described alike. -/
theorem places_survive (code : String) :
    let left := stripComments code
    let pairs := blankings code
    (pairs.map (·.1) = code.toList ∧ pairs.map (·.2) = left.toList ∧ KeptAll pairs) ∧
    (∀ k, offsetAt left k ≤ offsetAt code k ∧
      (offsetAt left k = offsetAt code k ↔ Narrow (pairs.take k))) ∧
    (∀ k, let before := position code (offsetAt code k)
      let after := position left (offsetAt left k)
      after.1 = before.1 ∧ after.2 ≤ before.2 ∧
        (after.2 = before.2 ↔ Narrow (lastPairs (pairs.take k)))) ∧
    (∀ k, Narrow (pairs.take k) → ∀ e : SyntaxError, e.start = offsetAt left k →
      e.start = offsetAt code k ∧ e.describe left = e.describe code) ∧
    (left.utf8ByteSize = code.utf8ByteSize ↔ ∀ ps, Pieces code.toList ps →
      ∀ p ∈ ps, p.isComment = true → ∀ c ∈ p.written, c.utf8Size = 1) ∧
    (left.utf8ByteSize = code.utf8ByteSize → ∀ errors,
      describeErrors left errors = describeErrors code errors) := by
  intro left pairs
  have hkept := keptAll_blankings code
  have hsize := hkept.utf8Len.2
  rw [map_snd_blankings, map_fst_blankings, String.utf8Len_toList, String.utf8Len_toList] at hsize
  refine ⟨⟨map_fst_blankings code, map_snd_blankings code, hkept⟩, offset_survives code,
    position_survives code, fun k hnarrow e he => ?_, hsize.trans narrow_blankings_iff,
    fun hsame errors => ?_⟩
  · have hoffset := (offset_survives code k).2.mpr hnarrow
    obtain ⟨hline, -, hcolumn⟩ := position_survives code k
    have hposition := Prod.ext hline (hcolumn.mpr hnarrow.lastPairs)
    refine ⟨he.trans hoffset, SyntaxError.describe_congr ?_⟩
    rw [he, hposition, hoffset]
  · have hall : ∀ offset, position left offset = position code offset := fun offset => by
      have h := hkept.positionFrom (hsize.mp hsame) 1 1 offset
      rwa [map_snd_blankings, map_fst_blankings] at h
    rw [describeErrors, describeErrors,
      List.map_congr_left fun e _ => SyntaxError.describe_congr (hall e.start)]

/-- Behind a comment with an accented letter a place does not survive: its offset is another one,
where the code has the end of the line before. -/
theorem places_shift :
    let code := "//é\n)"
    let left := stripComments code
    left.utf8ByteSize ≠ code.utf8ByteSize ∧ code.toList[4]? = some ')' ∧
      left.toList[4]? = some ')' ∧ offsetAt left 4 ≠ offsetAt code 4 ∧
      position left (offsetAt left 4) = (2, 1) ∧ position code (offsetAt left 4) = (1, 5) := by
  decide +kernel

end WidgetFlow.Script
