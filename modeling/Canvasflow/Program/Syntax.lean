/-!
# Syntax of connector programs

A program is a list of statements. Expressions are evaluated for a value; a place is an expression
that can also be written, so assignments and updates hold places and nothing else. Operators are
enumerated, and `BinaryOp.symbol` and its companions give their spelling.
-/

namespace Canvasflow.Program

/-- Operators before an operand. -/
inductive UnaryOp where
  | not
  | negate
  | plus
  deriving DecidableEq, Repr

/-- Operators that evaluate both operands. -/
inductive BinaryOp where
  | add
  | sub
  | mul
  | div
  | mod
  | pow
  | equal
  | notEqual
  | same
  | notSame
  | less
  | greater
  | lessEqual
  | greaterEqual
  deriving DecidableEq, Repr

/-- Operators that evaluate their right operand only if the left one does not decide. -/
inductive LogicalOp where
  | and
  | or
  | orElse
  deriving DecidableEq, Repr

/-- Operators that step a place by one. -/
inductive UpdateOp where
  | increment
  | decrement
  deriving DecidableEq, Repr

/-- The spelling of an operator. -/
def UnaryOp.symbol : UnaryOp → String
  | not => "!"
  | negate => "-"
  | plus => "+"

/-- The spelling of an operator. -/
def BinaryOp.symbol : BinaryOp → String
  | add => "+"
  | sub => "-"
  | mul => "*"
  | div => "/"
  | mod => "%"
  | pow => "**"
  | equal => "=="
  | notEqual => "!="
  | same => "==="
  | notSame => "!=="
  | less => "<"
  | greater => ">"
  | lessEqual => "<="
  | greaterEqual => ">="

/-- The spelling of an operator. -/
def LogicalOp.symbol : LogicalOp → String
  | and => "&&"
  | or => "||"
  | orElse => "??"

/-- The spelling of an operator. -/
def UpdateOp.symbol : UpdateOp → String
  | increment => "++"
  | decrement => "--"

/-- The ways to declare a name. -/
inductive Declarator where
  | constName
  | letName
  | varName
  deriving DecidableEq, Repr

/-- The word that declares. -/
def Declarator.keyword : Declarator → String
  | constName => "const"
  | letName => "let"
  | varName => "var"

/-- A value that is written out. -/
inductive Literal where
  | null
  | bool (value : Bool)
  | num (value : Float)
  | str (value : String)

mutual

/-- An expression. -/
inductive Expr where
  | literal (value : Literal)
  | read (place : Place)
  | call (callee : Expr) (args : List Expr)
  | unary (op : UnaryOp) (operand : Expr)
  | binary (left : Expr) (op : BinaryOp) (right : Expr)
  | logical (left : Expr) (op : LogicalOp) (right : Expr)
  | conditional (test yes no : Expr)
  | object (entries : List Entry)
  | array (items : List Expr)
  | assign (target : Place) (op : Option BinaryOp) (value : Expr)
  | update (target : Place) (op : UpdateOp) (before : Bool)

/-- An expression that can be written: a name, a member or an index, the latter two optional if they
are null on null. -/
inductive Place where
  | name (name : String)
  | member (object : Expr) (name : String) (optional : Bool)
  | index (object index : Expr) (optional : Bool)

/-- A part of a record literal: a key with its value, or a record whose fields are taken over. -/
inductive Entry where
  | pair (key : String) (value : Expr)
  | spread (value : Expr)

end

/-- A statement. -/
inductive Stmt where
  | declare (declarator : Declarator) (name : String) (value : Option Expr)
  | expr (value : Expr)
  | block (body : List Stmt)
  | cond (test : Expr) (yes : Stmt) (no : Option Stmt)
  | loop (test : Expr) (body : Stmt)
  | iterate (start : Option Stmt) (test next : Option Expr) (body : Stmt)
  | ret (value : Option Expr)
  | empty

instance : Inhabited Expr := ⟨.literal .null⟩

instance : Inhabited Stmt := ⟨.empty⟩

/-- The place that an expression is, if it is one. -/
def Expr.place? : Expr → Option Place
  | read place => some place
  | _ => none

end Canvasflow.Program
