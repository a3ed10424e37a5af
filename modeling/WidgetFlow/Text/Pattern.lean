import WidgetFlow.Text.Hex

/-!
# The form of patterns

A pattern is a regular expression: alternatives of rows of terms, where a term is a character, an
escape, a class of characters in square brackets or a group in parentheses, with any number of the
marks `*`, `+` and `?` behind it. `Pattern.isWellFormed` tells whether a text has this form; it does
not say what the pattern matches.

Marks need a term before them, and the boundaries of words are no terms. A group may have a name or
flags of its own, and flags alone, as in `(?i)`, change the rest of the group around them.
-/

namespace WidgetFlow.Text.Pattern

open WidgetFlow.Parser

/-- A parser whose result does not matter. -/
def silent {α : Type} (p : Parser α) : Parser Unit := map (fun _ => ()) p

/-- Whether a character may stand behind a backslash: a letter for a class of characters, for a
control character or for an end of the text, or a mark that then stands for itself. -/
def isEscapable (c : Char) : Bool :=
  "dDsSwWaftnrvAz".toList.contains c ||
    (c.toNat < 0x80 && !c.isAlphanum && c != '<' && c != '>')

/-- A character behind a backslash: spelled by its code point, a general category of one letter, or
one character. -/
def escape : Parser Unit := skipLeft (char '\\') <| choice [
  silent (skipLeft (char 'x') (hexChar 2)),
  silent (skipLeft (char 'u') (hexChar 4)),
  silent (skipLeft (char 'U') (hexChar 8)),
  silent (pair (satisfy fun c => c = 'p' || c = 'P') (satisfy ("CLMNPSZ".toList.contains ·))),
  silent (satisfy isEscapable)]

/-- An item of a class: a class of its own, an escape, a range, or a character. -/
def classItem (inner : Parser Unit) : Parser Unit := fun cs =>
  match cs with
  | [] => none
  | '[' :: _ => inner cs
  | '\\' :: _ => escape cs
  | ']' :: _ => none
  | c :: '-' :: last :: rest =>
    if [']', '-', '[', '\\'].contains last then some ((), '-' :: last :: rest)
    else if c ≤ last then some ((), rest)
    else none
  | _ :: rest => some ((), rest)

/-- A class of characters, whose classes nest at most to the given depth. A closing bracket just
behind the opening one stands for itself. -/
def charClass : Nat → Parser Unit
  | 0 => fail
  | depth + 1 =>
    silent (between (pair (char '[') (pair (opt (char '^')) (opt (char ']')))) (char ']')
      (many (classItem (charClass depth))))

/-- Flags, perhaps with further ones that are taken back behind a hyphen. -/
def flags : Parser Unit :=
  let letters := many (satisfy ("imsUuRx".toList.contains ·))
  filterMap (fun (_, off?) => if off? = some [] then none else some ())
    (pair letters (opt (skipLeft (char '-') letters)))

/-- What stands behind the parenthesis that opens a group which has a name or flags. -/
def groupHead : Parser Unit :=
  let name := pair (satisfy fun c => c.isAlpha || c = '_')
    (many (satisfy fun c => c.isAlphanum || ['_', '.', '[', ']'].contains c))
  skipLeft (char '?') <| choice [
    silent (pair flags (char ':')),
    silent (pair (opt (char 'P')) (between (char '<') (char '>') name))]

/-- Flags for the rest of a group. There is at least one. -/
def flagTerm : Parser Unit := fun cs =>
  match cs with
  | '(' :: '?' :: ')' :: _ => none
  | _ => silent (between (literal ['(', '?']) (char ')') flags) cs

/-- Alternatives of rows of terms, whose groups nest at most to the given depth. -/
def alternatives : Nat → Parser Unit
  | 0 => fail
  | depth + 1 =>
    let group := between (pair (char '(') (opt groupHead)) (char ')') (alternatives depth)
    let plain := silent (satisfy fun c => !("()|[*+?\x7b\\".toList.contains c))
    let marks := many (satisfy fun c => c = '*' || c = '+' || c = '?')
    let row := many <| orElse flagTerm <|
      silent (pair (choice [group, charClass (depth + 1), escape, plain]) marks)
    silent (pair row (many (skipLeft (char '|') row)))

/-- Whether a text is a pattern. -/
def isWellFormed (text : String) : Bool :=
  let cs := text.toList
  (run (alternatives (cs.length + 1)) cs).isSome

end WidgetFlow.Text.Pattern
