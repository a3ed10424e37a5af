/-!
# Parsers

A parser takes characters from the start of its input and gives what it read with the rest, or
fails and takes nothing. Choice is ordered: the second alternative is tried only where the first
one fails, and a choice once made is not revisited. Repetition goes on while its parser succeeds.

Repetition is bounded by the length of the input; a parser that takes at least one character on
every success never meets the bound.
-/

namespace WidgetFlow

/-- A parser of `α`. -/
abbrev Parser (α : Type u) := List Char → Option (α × List Char)

namespace Parser

variable {α β γ : Type}

/-- Takes nothing. -/
def success (a : α) : Parser α := fun cs => some (a, cs)

/-- Always fails. -/
def fail : Parser α := fun _ => none

/-- The first parser and then the one its result gives. -/
def andThen (p : Parser α) (f : α → Parser β) : Parser β := fun cs =>
  match p cs with
  | none => none
  | some (a, rest) => f a rest

/-- Maps the result. -/
def map (f : α → β) (p : Parser α) : Parser β := fun cs =>
  match p cs with
  | none => none
  | some (a, rest) => some (f a, rest)

/-- Maps the result, failing where the function has no value. -/
def filterMap (f : α → Option β) (p : Parser α) : Parser β := fun cs =>
  match p cs with
  | none => none
  | some (a, rest) => (f a).map fun b => (b, rest)

/-- Both parsers in turn, for the first result. -/
def skipRight (p : Parser α) (q : Parser β) : Parser α := andThen p fun a => map (fun _ => a) q

/-- Both parsers in turn, for the second result. -/
def skipLeft (p : Parser α) (q : Parser β) : Parser β := andThen p fun _ => q

/-- Both parsers in turn, for both results. -/
def pair (p : Parser α) (q : Parser β) : Parser (α × β) := andThen p fun a => map (fun b => (a, b)) q

/-- The second parser where the first one fails. -/
def orElse (p q : Parser α) : Parser α := fun cs =>
  match p cs with
  | none => q cs
  | some r => some r

/-- The first alternative that succeeds. -/
def choice : List (Parser α) → Parser α
  | [] => fail
  | p :: rest => orElse p (choice rest)

/-- The parser, or nothing where it fails. -/
def opt (p : Parser α) : Parser (Option α) := fun cs =>
  match p cs with
  | none => some (none, cs)
  | some (a, rest) => some (some a, rest)

/-- One character that satisfies a test. -/
def satisfy (test : Char → Bool) : Parser Char
  | [] => none
  | c :: cs => if test c then some (c, cs) else none

/-- One given character. -/
def char (c : Char) : Parser Char := satisfy (· = c)

/-- Given characters in a row. -/
def literal (text : List Char) : Parser Unit := fun cs =>
  if text.isPrefixOf cs then some ((), cs.drop text.length) else none

/-- Succeeds, taking nothing, where the given parser fails. -/
def notFollowedBy (p : Parser α) : Parser Unit := fun cs =>
  match p cs with
  | none => some ((), cs)
  | some _ => none

/-- Succeeds at the end of the input. -/
def endOfInput : Parser Unit
  | [] => some ((), [])
  | _ :: _ => none

/-- The longest run of characters that satisfy a test; it may be empty. -/
def takeWhile (test : Char → Bool) : Parser (List Char) := fun cs => some (cs.span test)

/-- As many results as the parser gives in a row, at most `n`. -/
def upTo (p : Parser α) : Nat → Parser (List α)
  | 0, cs => some ([], cs)
  | n + 1, cs =>
    match p cs with
    | none => some ([], cs)
    | some (a, rest) => map (a :: ·) (upTo p n) rest

/-- As many results as the parser gives in a row. -/
def many (p : Parser α) : Parser (List α) := fun cs => upTo p cs.length cs

/-- Folds the results of a repeated parser onto a first result, from the left. -/
def foldMany (first : Parser α) (next : Parser β) (f : α → β → α) : Parser α :=
  andThen first fun a => map (fun bs => bs.foldl f a) (many next)

/-- What follows the first item of a separated list: at most `n` further items. A separator that
no item follows is taken as well. -/
def separatedRest (item : Parser α) (separator : Parser β) : Nat → Parser (List α)
  | 0, cs => some ([], cs)
  | n + 1, cs =>
    match separator cs with
    | none => some ([], cs)
    | some (_, rest) =>
      match item rest with
      | none => some ([], rest)
      | some (a, rest) => map (a :: ·) (separatedRest item separator n) rest

/-- Items with separators between them and perhaps one behind the last; there may be no item, and
then no separator either. -/
def separated (item : Parser α) (separator : Parser β) : Parser (List α) := fun cs =>
  match item cs with
  | none => some ([], cs)
  | some (a, rest) => map (a :: ·) (separatedRest item separator rest.length) rest

/-- A parser between two others. -/
def between (left : Parser α) (right : Parser β) (p : Parser γ) : Parser γ :=
  skipRight (skipLeft left p) right

/-- The result of a parser that takes the whole input. -/
def run (p : Parser α) (cs : List Char) : Option α :=
  match p cs with
  | some (a, []) => some a
  | _ => none

end Parser

end WidgetFlow
