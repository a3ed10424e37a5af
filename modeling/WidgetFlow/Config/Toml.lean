import WidgetFlow.Config.Toml.Scalar
import WidgetFlow.Config.Toml.Table

/-!
# Reading TOML

`Toml.parse?` reads a TOML document into a value: key and value pairs, dotted and quoted keys,
tables, arrays of tables, inline tables, strings, numbers, dates, truth values and arrays. Arrays
and inline tables may stand on several lines and end with a comma, and they nest at most eighty
deep.
-/

namespace WidgetFlow.Toml

open WidgetFlow.Parser

/-! ## Values -/

/-- Items of an array: separated by commas, perhaps with one behind the last, over several lines. -/
def arrayItems (item : Parser Value) : Parser (List Value) :=
  between (pair (char '[') gap) (char ']')
    (separated (skipRight item gap) (pair (char ',') gap))

/-- The pairs of an inline table: separated by commas, perhaps with one behind the last, over
several lines. A key stands on one line, and so does a dotted key with its dots. -/
def inlinePairs (item : Parser Value) : Parser (List (List String × Value)) :=
  let onePair := pair (skipRight (skipRight key gap) (pair (char '=') gap)) item
  between (pair (char '\x7b') gap) (char '\x7d')
    (separated (skipRight onePair gap) (pair (char ',') gap))

/-- A value whose arrays and inline tables nest at most to the given depth. -/
def value : Nat → Parser Value
  | 0, cs => scalar cs
  | depth + 1, cs => cs |> choice [
      scalar,
      map .arr (arrayItems (value depth)),
      filterMap (fun pairs =>
          (pairs.foldlM (fun entries (k, v) => assign v k entries) []).map fun entries =>
            (Node.table .dotted entries).toValue)
        (inlinePairs (value depth))]

/-! ## Documents -/

/-- A line of a document. -/
inductive Line where
  | blank
  | pair (key : List String) (v : Value)
  | header (path : List String)
  | arrayHeader (path : List String)

/-- One line with its end. -/
def line : Parser Line := fun cs =>
  if cs.isEmpty then none
  else skipRight (fun cs => (choice [
      map .arrayHeader (between (literal ['[', '[']) (literal [']', ']']) key),
      map .header (between (char '[') (char ']') key),
      map (fun (k, v) => .pair k v) (pair (skipRight key (char '='))
        (fun cs => value nestingLimit (skipSpaces cs))),
      success .blank]) (skipSpaces cs)) lineEnd cs

/-- The document so far, and the path of the table that pairs go into. -/
def addLine : Entries × List String → Line → Option (Entries × List String)
  | state, .blank => some state
  | (entries, path), .pair k v => (modifyAt (assign v k) path entries).map (·, path)
  | (entries, _), .header path => (openTable path entries).map (·, path)
  | (entries, _), .arrayHeader path => (openArrayTable path entries).map (·, path)

/-- The characters of a text without the byte order mark at its start. -/
def skipMark : List Char → List Char
  | '\ufeff' :: rest => rest
  | cs => cs

/-- The value that a TOML document describes. -/
def parse? (text : String) : Option Value := do
  let lines ← run (many line) (skipMark text.toList)
  let (entries, _) ← lines.foldlM addLine ([], [])
  return (Node.table .path entries).toValue

end WidgetFlow.Toml
