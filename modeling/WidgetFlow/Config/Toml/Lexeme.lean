import WidgetFlow.Value.Reader

/-!
# Blanks, strings and keys of TOML

The pieces of a line: blanks and comments, strings in their four forms, and keys. A basic string
knows escapes and a literal one does not. Either may stand on several lines within three quotes,
where one or two quotes are text, also just before the three that end it.
-/

namespace WidgetFlow.Toml

open WidgetFlow.Parser

/-- The blanks within a line. -/
def skipSpaces (cs : List Char) : List Char := cs.dropWhile fun c => c = ' ' || c = '\t'

/-- A parser with blanks of the line allowed around it. -/
def spaced {α : Type} (p : Parser α) : Parser α := fun cs =>
  (p (skipSpaces cs)).map fun (a, rest) => (a, skipSpaces rest)

/-- Whether a character may stand in a comment or a literal string. -/
def isPlain (c : Char) : Bool := c = '\t' || (0x20 ≤ c.toNat && c.toNat ≠ 0x7F)

/-- A comment, or nothing. -/
def comment : Parser Unit := fun cs =>
  match cs with
  | '#' :: rest => some ((), rest.dropWhile isPlain)
  | _ => some ((), cs)

/-- The end of a line, in either form. -/
def newline : Parser Unit
  | '\n' :: rest => some ((), rest)
  | '\r' :: '\n' :: rest => some ((), rest)
  | _ => none

/-- What may stand behind the content of a line, with the end of the line or of the text. -/
def lineEnd : Parser Unit := fun cs =>
  match comment (skipSpaces cs) with
  | some ((), []) => some ((), [])
  | some ((), rest) => newline rest
  | none => none

/-- Blanks, comments and line ends between the items of an array or an inline table. -/
def gap : Parser Unit :=
  map (fun _ => ()) (pair (many (fun cs =>
    match skipSpaces cs with
    | '#' :: rest => newline (rest.dropWhile isPlain)
    | rest => newline rest)) (fun cs => some ((), skipSpaces cs)))

/-- The character of an escape, whose backslash is read already. -/
def escape : Parser Char
  | 'b' :: rest => some ('\x08', rest)
  | 't' :: rest => some ('\t', rest)
  | 'n' :: rest => some ('\n', rest)
  | 'f' :: rest => some ('\x0c', rest)
  | 'r' :: rest => some ('\r', rest)
  | 'e' :: rest => some ('\x1b', rest)
  | '"' :: rest => some ('"', rest)
  | '\\' :: rest => some ('\\', rest)
  | 'x' :: rest => Text.hexChar 2 rest
  | 'u' :: rest => Text.hexChar 4 rest
  | 'U' :: rest => Text.hexChar 8 rest
  | _ => none

/-- One character of a basic string. -/
def basicChar : Parser Char
  | '\\' :: rest => escape rest
  | c :: rest => if c = '"' || !isPlain c then none else some (c, rest)
  | [] => none

/-- A basic or a literal string on one line. -/
def lineString : Parser String := orElse
  (map String.ofList (between (char '"') (char '"') (many basicChar)))
  (map String.ofList
    (between (char '\'') (char '\'') (many (satisfy fun c => isPlain c && c != '\''))))

/-- The end of a line as text. -/
def textBreak : Parser (List Char)
  | '\n' :: rest => some (['\n'], rest)
  | '\r' :: '\n' :: rest => some (['\r', '\n'], rest)
  | _ => none

/-- A backslash at the end of a line with all blanks and line ends behind it: no text. -/
def joint : Parser (List Char) :=
  let blank : Parser Unit := map (fun _ => ()) (satisfy fun c => c = ' ' || c = '\t')
  map (fun _ => []) (pair (skipLeft (char '\\') (skipLeft (many blank) newline))
    (many (orElse blank newline)))

/-- A quote that is text: one of one or two, or one that stands before the three that end the
string. -/
def innerQuote (quote : Char) : Parser (List Char) := fun cs =>
  let row := (cs.takeWhile (· = quote)).length
  if [1, 2, 4, 5].contains row then map ([·]) (char quote) cs else none

/-- A string within three quotes. A line end just behind the first three is no text. -/
def multiline (quote : Char) (piece : Parser (List Char)) : Parser String :=
  let three := literal [quote, quote, quote]
  map (fun pieces => String.ofList pieces.flatten)
    (between (pair three (opt newline)) three
      (many (choice [piece, innerQuote quote, textBreak])))

/-- A string in any of its forms. -/
def string : Parser String := choice [
  multiline '"' (orElse joint (map ([·]) basicChar)),
  multiline '\'' (map ([·]) (satisfy fun c => isPlain c && c != '\'')),
  lineString]

/-- Whether a character may stand in a bare key. -/
def isBareKey (c : Char) : Bool :=
  ('a' ≤ c && c ≤ 'z') || ('A' ≤ c && c ≤ 'Z') || c.isDigit || c = '_' || c = '-'

/-- One part of a key. -/
def simpleKey : Parser String := orElse lineString
  (map String.ofList (filterMap (fun cs => if cs.isEmpty then none else some cs)
    (takeWhile isBareKey)))

/-- How deep values and keys may nest. -/
def nestingLimit : Nat := 80

/-- A key, perhaps dotted. -/
def key : Parser (List String) :=
  filterMap (fun (k, ks) => if ks.length < nestingLimit then some (k :: ks) else none)
    (pair (spaced simpleKey) (many (skipLeft (char '.') (spaced simpleKey))))

end WidgetFlow.Toml
