import WidgetFlow.Text.Blank
import WidgetFlow.Text.Letter
import WidgetFlow.Text.Parser
import WidgetFlow.Value.Coerce

/-!
# Lexical pieces of handler code

Identifiers, keywords, string literals and number literals. Blanks may stand on both sides of a
piece wherever the grammar says so by `spaced`.
-/

namespace WidgetFlow.Script

open WidgetFlow.Parser

/-- The words that name no variable. Members of a value and keys of a record may still be called
by them. -/
def reservedWords : List String :=
  ["let", "const", "var", "if", "else", "return", "true", "false", "null", "undefined", "function"]

/-- A parser with blanks allowed on both sides. -/
def spaced {α : Type} (p : Parser α) : Parser α := fun cs =>
  match p (Text.skipBlanks cs) with
  | none => none
  | some (a, rest) => some (a, Text.skipBlanks rest)

/-- One character with blanks around it. -/
def mark (c : Char) : Parser Char := spaced (char c)

/-- Whether a character may start an identifier. -/
def isNameStart (c : Char) : Bool := Text.isAlphabetic c || c = '_' || c = '$'

/-- Whether a character may go on with an identifier. -/
def isNamePart (c : Char) : Bool := Text.isAlphanumeric c || c = '_' || c = '$'

/-- An identifier or a reserved word. -/
def anyName : Parser String :=
  map (fun (c, cs) => String.ofList (c :: cs)) (pair (satisfy isNameStart) (takeWhile isNamePart))

/-- An identifier. -/
def name : Parser String :=
  filterMap (fun s => if reservedWords.contains s then none else some s) anyName

/-- A whole word, with blanks around it. -/
def keyword (word : String) : Parser Unit :=
  spaced (filterMap (fun s => if s = word then some () else none) anyName)

/-- The character that an escape stands for, whose backslash is read already. -/
def escapeOf : Char → Option Char
  | 'n' => some '\n'
  | 't' => some '\t'
  | 'r' => some '\r'
  | '0' => some '\x00'
  | '\\' => some '\\'
  | '\'' => some '\''
  | '"' => some '"'
  | '/' => some '/'
  | _ => none

/-- One character of a string in the given quotes. -/
def quotedChar (quote : Char) : Parser Char
  | '\\' :: c :: rest => (escapeOf c).map fun e => (e, rest)
  | c :: rest => if c = quote || c = '\\' then none else some (c, rest)
  | [] => none

/-- A string in the given quotes. It may run over several lines. -/
def quoted (quote : Char) : Parser String :=
  map String.ofList (between (char quote) (char quote) (many (quotedChar quote)))

/-- A string literal, in double or single quotes. -/
def stringLiteral : Parser String := orElse (quoted '"') (quoted '\'')

/-- One or more decimal digits. -/
def digits : Parser (List Char) := fun cs =>
  match cs.span Char.isDigit with
  | ([], _) => none
  | r => some r

/-- The exponent of a number literal. -/
def exponent : Parser Int :=
  skipLeft (satisfy fun c => c = 'e' || c = 'E') <|
    andThen (opt (satisfy fun c => c = '+' || c = '-')) fun sign =>
      map (fun ds => if sign = some '-' then -(Decimal.ofDigitChars ds : Int)
        else Decimal.ofDigitChars ds) digits

/-- A number literal: digits, perhaps a fraction, perhaps an exponent. Its value is what
arithmetic would make of it, so a literal beyond the doubles is null. -/
def numberLiteral : Parser Value :=
  andThen digits fun whole =>
  andThen (opt (skipLeft (char '.') digits)) fun fraction =>
  map (fun e =>
    let fraction := fraction.getD []
    Value.ofFloat (Decimal.nearest (Decimal.ofDigitChars (whole ++ fraction))
      (e.getD 0 - fraction.length)))
    (opt exponent)

end WidgetFlow.Script
