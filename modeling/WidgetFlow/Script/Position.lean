/-!
# Positions of syntax errors

A syntax error names a place in the code by its offset in bytes. `describeErrors` gives each of
them by line and column, both counted from 1; a column counts bytes from the start of its line.
-/

namespace WidgetFlow.Script

/-- A syntax error: the byte offset where it starts, the reason, and the character found there,
none at the end of the code. -/
structure SyntaxError where
  start : Nat
  reason : String
  found : Option Char

/-- The line and the column of a byte offset, counted on from the given ones. -/
def positionFrom (line column : Nat) : Nat → List Char → Nat × Nat
  | 0, _ => (line, column)
  | _ + 1, [] => (line, column)
  | offset + 1, c :: cs =>
    if c = '\n' then positionFrom (line + 1) 1 (offset + 1 - c.utf8Size) cs
    else positionFrom line (column + c.utf8Size) (offset + 1 - c.utf8Size) cs

/-- The line and the column of a byte offset; one behind the end of the code counts as the end. -/
def position (code : String) (offset : Nat) : Nat × Nat := positionFrom 1 1 offset code.toList

/-- One syntax error as a line of text. -/
def SyntaxError.describe (code : String) (e : SyntaxError) : String :=
  let (line, column) := position code e.start
  let found := match e.found with
    | some c => "'" ++ String.singleton c ++ "'"
    | none => "end of input"
  s!"Line {line}, column {column}: {e.reason} (found {found})"

/-- Syntax errors, one on each line. -/
def describeErrors (code : String) (errors : List SyntaxError) : String :=
  "\n".intercalate (errors.map (SyntaxError.describe code))

end WidgetFlow.Script
