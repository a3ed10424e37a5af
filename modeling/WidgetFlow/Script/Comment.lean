/-!
# Comments

Comments run from `//` to the end of the line or from `/*` to `*/`, and start outside string
literals only. They are blanked out before code is parsed: every character of a comment becomes a
space, its line ends stay, and all other characters keep their places.
-/

namespace WidgetFlow.Script

/-- Where in the code a character stands: outside strings and comments, in a string with the
given quote, in a comment up to the end of the line, or in a comment up to its closing mark. -/
inductive Zone where
  | code
  | quoted (quote : Char)
  | line
  | block
deriving DecidableEq, Repr

/-- The code from a point in the given zone on, with the comments blanked out. -/
def blankFrom : Zone → List Char → List Char
  | _, [] => []
  | .code, '/' :: '/' :: cs => ' ' :: ' ' :: blankFrom .line cs
  | .code, '/' :: '*' :: cs => ' ' :: ' ' :: blankFrom .block cs
  | .code, c :: cs => c :: blankFrom (if c = '"' ∨ c = '\'' then .quoted c else .code) cs
  | .quoted q, '\\' :: c :: cs => '\\' :: c :: blankFrom (.quoted q) cs
  | .quoted q, c :: cs => c :: blankFrom (if c = q then .code else .quoted q) cs
  | .line, c :: cs => if c = '\n' then '\n' :: blankFrom .code cs else ' ' :: blankFrom .line cs
  | .block, '*' :: '/' :: cs => ' ' :: ' ' :: blankFrom .code cs
  | .block, c :: cs => (if c = '\n' then '\n' else ' ') :: blankFrom .block cs

/-- The characters of some code with the comments blanked out. -/
def blankComments (cs : List Char) : List Char := blankFrom .code cs

/-- Code with the comments blanked out. -/
def stripComments (code : String) : String := String.ofList (blankComments code.toList)

end WidgetFlow.Script
