import WidgetFlow.Script.Tree
import WidgetFlow.Script.Lexeme
import WidgetFlow.Script.Comment

/-!
# The grammar of handler code

From the loosest to the tightest, expressions are built by `?:`, `||`, `&&`, equality, relational,
additive and multiplicative operators, the prefix operators, and members, indices and calls.
Binary operators group to the left. A semicolon may end a statement and is never needed.

Expressions and statements nest, and every nested one starts at least one character further on.
The parsers are therefore built in layers, each from the next inner one, and as many layers as the
code has characters are always enough.
-/

namespace WidgetFlow.Script

open WidgetFlow.Parser

/-! ## Expressions -/

/-- What may follow an expression directly. -/
inductive Suffix where
  | member (name : String)
  | index (index : Expr)
  | call (args : List Expr)

/-- An expression with a suffix. -/
def Suffix.apply (base : Expr) : Suffix → Expr
  | .member name => .member base name
  | .index i => .index base i
  | .call args => .call base args

/-- The literals of one word, a number or a string. -/
def literal : Parser Expr := choice [
  map (fun _ => .literal (.bool true)) (keyword "true"),
  map (fun _ => .literal (.bool false)) (keyword "false"),
  map (fun _ => .literal .null) (keyword "null"),
  map (fun _ => .literal .null) (keyword "undefined"),
  map .literal numberLiteral,
  map (fun s => .literal (.str s)) stringLiteral]

/-- Expressions separated by commas. -/
def expressions (expr : Parser Expr) : Parser (List Expr) := separated expr (mark ',')

/-- The key of a record: any name or a string. -/
def entryKey : Parser String := spaced (orElse anyName stringLiteral)

/-- One entry of a record. -/
def entry (expr : Parser Expr) : Parser (String × Expr) := pair (skipRight entryKey (mark ':')) expr

/-- An expression without operators and suffixes. -/
def atom (expr : Parser Expr) : Parser Expr := spaced <| choice [
  literal,
  map .array (between (mark '[') (mark ']') (expressions expr)),
  map .object (between (mark '\x7b') (mark '\x7d') (separated (entry expr) (mark ','))),
  between (mark '(') (mark ')') expr,
  map .var name]

/-- One suffix. -/
def suffix (expr : Parser Expr) : Parser Suffix := spaced <| choice [
  map .member (skipLeft (mark '.') anyName),
  map .index (between (mark '[') (mark ']') expr),
  map .call (between (mark '(') (mark ')') (expressions expr))]

/-- An expression with its suffixes. -/
def suffixed (expr : Parser Expr) : Parser Expr := foldMany (atom expr) (suffix expr) Suffix.apply

/-- A prefix operator. -/
def unaryOp : Parser UnaryOp :=
  spaced (orElse (map (fun _ => .not) (char '!')) (map (fun _ => .neg) (char '-')))

/-- Prefix operators before an expression with its suffixes. -/
def unary (expr : Parser Expr) : Parser Expr :=
  andThen (many unaryOp) fun ops => map (fun e => ops.foldr .unary e) (suffixed expr)

/-- One level of binary operators, grouping to the left. -/
def binaryLevel (operand : Parser Expr) (op : Parser BinaryOp) : Parser Expr :=
  foldMany operand (pair (spaced op) operand) fun left (op, right) => .binary op left right

/-- An operator written with the given characters. -/
def sign (op : BinaryOp) : Parser BinaryOp := map (fun _ => op) (Parser.literal op.sign.toList)

/-- Multiplicative operators. -/
def product (expr : Parser Expr) : Parser Expr :=
  binaryLevel (unary expr) (choice [sign .mul, sign .div, sign .rem])

/-- A plus or minus sign that does not start an assignment. -/
def plainSign (op : BinaryOp) : Parser BinaryOp := skipRight (sign op) (notFollowedBy (char '='))

/-- Additive operators. -/
def sum (expr : Parser Expr) : Parser Expr :=
  binaryLevel (product expr) (choice [plainSign .add, plainSign .sub])

/-- Relational operators. -/
def relation (expr : Parser Expr) : Parser Expr :=
  binaryLevel (sum expr) (choice [sign .le, sign .ge, sign .lt, sign .gt])

/-- Equality operators. -/
def equality (expr : Parser Expr) : Parser Expr :=
  binaryLevel (relation expr) (choice [sign .strictEq, sign .strictNe, sign .eq, sign .ne])

/-- Conjunctions. -/
def conjunction (expr : Parser Expr) : Parser Expr := binaryLevel (equality expr) (sign .and)

/-- Disjunctions. -/
def disjunction (expr : Parser Expr) : Parser Expr := binaryLevel (conjunction expr) (sign .or)

/-- The two branches of a conditional expression. -/
def branches (expr : Parser Expr) : Parser (Expr × Expr) :=
  pair (skipRight (skipLeft (mark '?') expr) (mark ':')) expr

/-- An expression whose nested expressions are read by the given parser. -/
def expressionOver (expr : Parser Expr) : Parser Expr :=
  andThen (disjunction expr) fun test =>
    map (fun
      | some (yes, no) => .cond test yes no
      | none => test) (opt (branches expr))

/-- An expression that nests at most to the given depth. -/
def expressionTo : Nat → Parser Expr
  | 0, _ => none
  | depth + 1, cs => expressionOver (expressionTo depth) cs

/-- An expression. -/
def expression : Parser Expr := fun cs => expressionTo (cs.length + 1) cs

/-! ## Statements -/

/-- A semicolon, or none. -/
def semicolon : Parser Unit := map (fun _ => ()) (opt (mark ';'))

/-- Statements in braces. -/
def body (stmt : Parser Stmt) : Parser (List Stmt) := between (mark '\x7b') (mark '\x7d') (many stmt)

/-- The word of a declaration. -/
def declKind : Parser DeclKind := choice
  ([.block, .constant, .handler].map fun k => map (fun _ => k) (keyword k.word))

/-- A declaration. -/
def declaration : Parser Stmt :=
  andThen declKind fun kind =>
  andThen (spaced name) fun name =>
  map (fun init => .decl kind name init)
    (skipRight (opt (skipLeft (mark '=') expression)) semicolon)

/-- A conditional statement. -/
def branchStmt (stmt : Parser Stmt) : Parser Stmt :=
  andThen (skipLeft (keyword "if") (between (mark '(') (mark ')') expression)) fun test =>
  andThen stmt fun yes =>
  map (fun no => .branch test yes no) (opt (skipLeft (keyword "else") stmt))

/-- A return. -/
def returnStmt : Parser Stmt :=
  map .ret (skipRight (skipLeft (keyword "return") (opt expression)) semicolon)

/-- The sign of an assignment. -/
def assignOp : Parser AssignOp := spaced <| choice [
  map (fun _ => .add) (Parser.literal ['+', '=']),
  map (fun _ => .sub) (Parser.literal ['-', '=']),
  map (fun _ => .set)
    (skipRight (char '=') (notFollowedBy (satisfy fun c => c = '=' || c = '>')))]

/-- An assignment to a place. -/
def assignment : Parser Stmt :=
  andThen (filterMap (fun e => if e.isPlace then some e else none) expression) fun target =>
  andThen assignOp fun op =>
  map (fun value => .assign target op value) (skipRight expression semicolon)

/-- A statement whose nested statements are read by the given parser. -/
def statementOver (stmt : Parser Stmt) : Parser Stmt := spaced <| choice [
  map .block (body stmt),
  declaration,
  branchStmt stmt,
  returnStmt,
  assignment,
  map .expr (skipRight expression semicolon),
  map (fun _ => .empty) (mark ';')]

/-- A statement that nests at most to the given depth. -/
def statementTo : Nat → Parser Stmt
  | 0, _ => none
  | depth + 1, cs => statementOver (statementTo depth) cs

/-- A statement. -/
def statement : Parser Stmt := fun cs => statementTo (cs.length + 1) cs

/-- A list of statements. -/
def program : Parser (List Stmt) := spaced (many statement)

/-! ## Functions -/

/-- Parameters in parentheses. -/
def parameters : Parser (List String) :=
  between (mark '(') (mark ')') (separated (spaced name) (char ','))

/-- A function with the word `function`; its name is read and dropped. -/
def namedFunction : Parser FunctionLit :=
  map (fun (params, body) => ⟨params, body⟩)
    (pair (skipLeft (keyword "function") (skipLeft (opt (spaced name)) parameters)) (body statement))

/-- A function with an arrow, whose body is statements in braces or the expression it returns. -/
def arrowFunction : Parser FunctionLit :=
  map (fun (params, body) => ⟨params, body⟩)
    (pair
      (skipRight (orElse parameters (map (fun p => [p]) (spaced name)))
        (spaced (Parser.literal ['=', '>'])))
      (orElse (body statement) (map (fun e => [.ret (some e)]) expression)))

/-- A function literal, perhaps with a semicolon behind it. -/
def functionLiteral : Parser FunctionLit :=
  skipRight (spaced (orElse namedFunction arrowFunction)) semicolon

/-! ## Whole texts -/

/-- Reads a whole text, comments aside. -/
def readWhole {α : Type} (p : Parser α) (code : String) : Option α :=
  run p (blankComments code.toList)

/-- Code as a list of statements. -/
def parseProgram (code : String) : Option (List Stmt) := readWhole program code

/-- Code as one function literal. -/
def parseFunction (code : String) : Option FunctionLit := readWhole functionLiteral code

/-- Code as a `return` of one function literal. -/
def parseWrapped (code : String) : Option FunctionLit :=
  readWhole (spaced (skipLeft (keyword "return") functionLiteral)) code

/-- Code as one expression. -/
def parseExpression (code : String) : Option Expr := readWhole (spaced expression) code

end WidgetFlow.Script
