import WidgetFlow.Script.Grammar

/-!
# Shapes of handler code

Handler code comes in three shapes: bare statements, a function literal, and a `return` of a
function literal. Each shape has a cheap test that tells which code it recognizes, and shapes are
tried by falling priority; the first one that recognizes the code and parses it compiles the
handler.
-/

namespace WidgetFlow.Script

/-- The shapes of handler code. -/
inductive Shape where
  | block | function | wrapped
deriving DecidableEq, Repr

/-- Compiled handler code: its shape, its parameters and its statements. -/
structure Handler where
  shape : Shape
  params : List String
  body : List Stmt
deriving BEq

namespace Shape

/-- The name of a shape. -/
def name : Shape → String
  | .block => "block"
  | .function => "function"
  | .wrapped => "wrapped"

/-- The shape of a name. -/
def ofName? : String → Option Shape
  | "block" => some .block
  | "function" => some .function
  | "wrapped" => some .wrapped
  | _ => none

/-- Shapes of higher priority are tried first. -/
def priority : Shape → Nat
  | .block => 90
  | .function => 50
  | .wrapped => 30

/-- Whether blanks and an arrow follow. -/
def arrowFollows (cs : List Char) : Bool := ['=', '>'].isPrefixOf (Text.skipBlanks cs)

/-- Whether code that starts without blanks starts like a function literal: with the whole word
`function`, with parentheses and an arrow, or with one name of ASCII start and an arrow. -/
def startsFunction : List Char → Bool
  | [] => false
  | c :: cs =>
    let word := "function".toList
    (word.isPrefixOf (c :: cs) &&
      !((((c :: cs).drop word.length).head?.map Text.isWordChar).getD false)) ||
    (c = '(' &&
      match cs.dropWhile (· != ')') with
      | [] => false
      | _ :: rest => arrowFollows rest) ||
    ((('a' ≤ c && c ≤ 'z') || ('A' ≤ c && c ≤ 'Z') || c = '_' || c = '$') &&
      arrowFollows (cs.dropWhile fun c => Text.isWordChar c || c = '$'))

/-- Whether code that starts without blanks starts with `return` and a blank. -/
def startsReturn (cs : List Char) : Bool :=
  let word := "return".toList
  word.isPrefixOf cs && ((cs.drop word.length).head?.map Text.isBlank).getD false

/-- Whether a shape recognizes the code. Statements recognize any code. -/
def recognizes (code : String) : Shape → Bool
  | .block => true
  | .function => startsFunction (Text.skipBlanks code.toList)
  | .wrapped => startsReturn (Text.skipBlanks code.toList)

/-- The code compiled in a given shape. -/
def compile? (code : String) : Shape → Option Handler
  | .block => (parseProgram code).map fun body => ⟨.block, [], body⟩
  | .function => (parseFunction code).map fun f => ⟨.function, f.params, f.body⟩
  | .wrapped => (parseWrapped code).map fun f => ⟨.wrapped, f.params, f.body⟩

end Shape

/-- Why code did not compile: none of the tried shapes could read it. -/
inductive CompileError where
  | noMatchingShape (tried : List Shape)
deriving DecidableEq, Repr

/-- A list of shapes by falling priority with one more shape, behind those of the same priority. -/
def registerShape (shape : Shape) : List Shape → List Shape
  | [] => [shape]
  | s :: rest =>
    if s.priority < shape.priority then shape :: s :: rest else s :: registerShape shape rest

/-- The shapes of a list in the order in which they are tried. -/
def shapeOrder (shapes : List Shape) : List Shape :=
  shapes.foldl (fun order s => registerShape s order) []

/-- All shapes in the order in which they are tried. -/
def allShapes : List Shape := shapeOrder [.block, .function, .wrapped]

/-- The code compiled by the first of the shapes that recognizes and reads it. -/
def compileWith (shapes : List Shape) (code : String) : Except CompileError Handler :=
  let recognizing := shapes.filter (·.recognizes code)
  match recognizing.findSome? (·.compile? code) with
  | some handler => .ok handler
  | none => .error (.noMatchingShape recognizing)

/-- Handler code compiled. -/
def compile (code : String) : Except CompileError Handler := compileWith allShapes code

end WidgetFlow.Script
