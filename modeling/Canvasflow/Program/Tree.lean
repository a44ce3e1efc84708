import Canvasflow.Data
import Canvasflow.Program.Syntax

/-!
# Syntax trees as data

A syntax tree written out as plain data, for tools that look at programs: every node is a list of
its kind and its parts, and a part that is left out is null.
-/

namespace Canvasflow.Program

/-- A node of a tree. -/
def node (kind : String) (parts : List Data) : Data :=
  .list (.str kind :: parts)

/-- A literal as data. -/
def Literal.toData : Literal → Data
  | .null => .null
  | .bool value => .bool value
  | .num value => .double value
  | .str value => .str value

mutual

/-- An expression as data. -/
def Expr.toData : Expr → Data
  | .literal value => node "Literal" [value.toData]
  | .read place => place.toData
  | .call callee args => node "Call" [callee.toData, .list (Expr.listToData args)]
  | .unary op operand => node "Unary" [.str op.symbol, operand.toData]
  | .binary left op right => node "Binary" [left.toData, .str op.symbol, right.toData]
  | .logical left op right => node "Logical" [left.toData, .str op.symbol, right.toData]
  | .conditional test yes no => node "Conditional" [test.toData, yes.toData, no.toData]
  | .object entries => node "ObjectLiteral" [.list (Entry.listToData entries)]
  | .array items => node "ArrayLiteral" [.list (Expr.listToData items)]
  | .assign target op value =>
    node "Assign" [target.toData, .str ((op.map BinaryOp.symbol).getD "" ++ "="), value.toData]
  | .update target op before => node "Update" [target.toData, .str op.symbol, .bool before]

/-- A place as data. -/
def Place.toData : Place → Data
  | .name name => node "Name" [.str name]
  | .member object name optional => node "Member" [object.toData, .str name, .bool optional]
  | .index object index optional => node "Index" [object.toData, index.toData, .bool optional]

/-- A part of a record literal as data. -/
def Entry.toData : Entry → Data
  | .pair key value => node "Pair" [.str key, value.toData]
  | .spread value => node "Spread" [value.toData]

/-- Some expressions as data. -/
def Expr.listToData : List Expr → List Data
  | [] => []
  | expr :: rest => expr.toData :: Expr.listToData rest

/-- The parts of a record literal as data. -/
def Entry.listToData : List Entry → List Data
  | [] => []
  | entry :: rest => entry.toData :: Entry.listToData rest

end

/-- An expression that may be left out as data. -/
def Expr.optionToData : Option Expr → Data
  | some expr => expr.toData
  | none => .null

mutual

/-- A statement as data. -/
def Stmt.toData : Stmt → Data
  | .declare declarator name value =>
    node "Declare" [.str declarator.keyword, .str name, Expr.optionToData value]
  | .expr value => node "ExprStmt" [value.toData]
  | .block body => node "Block" [.list (Stmt.listToData body)]
  | .cond test yes no => node "If" [test.toData, yes.toData, Stmt.optionToData no]
  | .loop test body => node "While" [test.toData, body.toData]
  | .iterate start test next body =>
    node "For" [Stmt.optionToData start, Expr.optionToData test, Expr.optionToData next, body.toData]
  | .ret value => node "Return" [Expr.optionToData value]
  | .empty => node "Empty" []

/-- Some statements as data. -/
def Stmt.listToData : List Stmt → List Data
  | [] => []
  | stmt :: rest => stmt.toData :: Stmt.listToData rest

/-- A statement that may be left out as data. -/
def Stmt.optionToData : Option Stmt → Data
  | some stmt => stmt.toData
  | none => .null

end

end Canvasflow.Program
