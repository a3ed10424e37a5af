import WidgetFlow.Value.Basic

/-!
# The syntax tree of handler code

Expressions and statements of the handler language. The language has no loops and no functions of
its own, so that running code is a recursion on this tree.
-/

namespace WidgetFlow.Script

/-- The operators between two operands. -/
inductive BinaryOp where
  | add | sub | mul | div | rem
  | eq | ne | strictEq | strictNe
  | lt | le | gt | ge
  | and | or
deriving DecidableEq, Repr

/-- An operator as it is written. -/
def BinaryOp.sign : BinaryOp → String
  | .add => "+" | .sub => "-" | .mul => "*" | .div => "/" | .rem => "%"
  | .eq => "==" | .ne => "!=" | .strictEq => "===" | .strictNe => "!=="
  | .lt => "<" | .le => "<=" | .gt => ">" | .ge => ">="
  | .and => "&&" | .or => "||"

/-- The operators before one operand. -/
inductive UnaryOp where
  | not | neg
deriving DecidableEq, Repr

/-- An expression. -/
inductive Expr where
  | literal (value : Value)
  | array (items : List Expr)
  | object (entries : List (String × Expr))
  | var (name : String)
  | member (base : Expr) (name : String)
  | index (base : Expr) (index : Expr)
  | call (callee : Expr) (args : List Expr)
  | unary (op : UnaryOp) (operand : Expr)
  | binary (op : BinaryOp) (left right : Expr)
  | cond (test yes no : Expr)
deriving BEq, Inhabited

/-- Whether an expression names a place that can be assigned to: a variable, or a member or an
index below one. -/
def Expr.isPlace : Expr → Bool
  | .var _ => true
  | .member base _ => base.isPlace
  | .index base _ => base.isPlace
  | _ => false

/-- The kinds of declaration: for the rest of the block, as a constant for the rest of the block,
or for the whole handler. -/
inductive DeclKind where
  | block | constant | handler
deriving DecidableEq, Repr

/-- The word that starts a declaration. -/
def DeclKind.word : DeclKind → String
  | .block => "let"
  | .constant => "const"
  | .handler => "var"

/-- The kinds of assignment: in place of the old value, added to it, or subtracted from it. -/
inductive AssignOp where
  | set | add | sub
deriving DecidableEq, Repr

/-- The sign of an assignment. -/
def AssignOp.sign : AssignOp → String
  | .set => "="
  | .add => "+="
  | .sub => "-="

/-- A statement. -/
inductive Stmt where
  | decl (kind : DeclKind) (name : String) (init : Option Expr)
  | assign (target : Expr) (op : AssignOp) (value : Expr)
  | expr (expr : Expr)
  | branch (test : Expr) (yes : Stmt) (no : Option Stmt)
  | ret (value : Option Expr)
  | block (body : List Stmt)
  | empty
deriving BEq, Inhabited

/-- A function literal: its parameters and its body. -/
structure FunctionLit where
  params : List String
  body : List Stmt
deriving BEq, Inhabited

end WidgetFlow.Script
