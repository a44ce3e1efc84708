import Canvasflow.Program.Tree
import Canvasflow.Proofs.Program.Rendering

/-!
# Trees of which nothing is known

A tree of nodes of which any may stand anywhere, with operators and declaring words as they are
spelled. Expressions and statements can be written as nodes, which are the same as data. The nodes
that are expressions, and those that are statements, hold what they should at every depth; each of
them is an expression or a statement written as a node.
-/

namespace Canvasflow.Program

open Reader

mutual

/-- A node of a tree. -/
inductive Node where
  | literal (value : Literal)
  | name (name : String)
  | member (object : Node) (name : String) (optional : Bool)
  | index (object index : Node) (optional : Bool)
  | call (callee : Node) (args : List Node)
  | unary (op : String) (operand : Node)
  | binary (left : Node) (op : String) (right : Node)
  | logical (left : Node) (op : String) (right : Node)
  | conditional (test yes no : Node)
  | object (parts : List Part)
  | array (items : List Node)
  | assign (target : Node) (op : String) (value : Node)
  | update (target : Node) (op : String) (before : Bool)
  | declare (word name : String) (value : Option Node)
  | expr (value : Node)
  | block (body : List Node)
  | cond (test yes : Node) (no : Option Node)
  | loop (test body : Node)
  | iterate (start test next : Option Node) (body : Node)
  | ret (value : Option Node)
  | empty

/-- A part of a record literal. -/
inductive Part where
  | pair (key : String) (value : Node)
  | spread (value : Node)

end

namespace Node

/-- What a node is called. -/
def kind : Node → String
  | literal _ => "Literal"
  | name _ => "Name"
  | member .. => "Member"
  | index .. => "Index"
  | call .. => "Call"
  | unary .. => "Unary"
  | binary .. => "Binary"
  | logical .. => "Logical"
  | conditional .. => "Conditional"
  | object _ => "ObjectLiteral"
  | array _ => "ArrayLiteral"
  | assign .. => "Assign"
  | update .. => "Update"
  | declare .. => "Declare"
  | expr _ => "ExprStmt"
  | block _ => "Block"
  | cond .. => "If"
  | loop .. => "While"
  | iterate .. => "For"
  | ret _ => "Return"
  | empty => "Empty"

/-- Whether a node can be written: a name, a member or an index. -/
def isTarget : Node → Bool
  | name _ | member .. | index .. => true
  | _ => false

end Node

/-- The operators that evaluate both operands, under their spellings. -/
def binaryOps : Entries BinaryOp :=
  ("**", .pow) :: (multiplicativeOps ++ additiveOps ++ relationalOps ++ equalityOps)

/-- The operators whose right operand may be left unevaluated, under their spellings. -/
def logicalOps : Entries LogicalOp := [("&&", .and), ("||", .or), ("??", .orElse)]

mutual

/-- A node is an expression: its parts are expressions, its operator is one that is read where it
stands, and what it writes can be written. -/
def Node.IsExpression : Node → Prop
  | .literal _ => True
  | .name _ => True
  | .member object _ _ => object.IsExpression
  | .index object index _ => object.IsExpression ∧ index.IsExpression
  | .call callee args => callee.IsExpression ∧ Node.AreExpressions args
  | .unary op operand => op ∈ Entries.keys unaryOps ∧ operand.IsExpression
  | .binary left op right => op ∈ Entries.keys binaryOps ∧ left.IsExpression ∧ right.IsExpression
  | .logical left op right => op ∈ Entries.keys logicalOps ∧ left.IsExpression ∧ right.IsExpression
  | .conditional test yes no => test.IsExpression ∧ yes.IsExpression ∧ no.IsExpression
  | .object parts => Part.HoldExpressions parts
  | .array items => Node.AreExpressions items
  | .assign target op value =>
    target.isTarget ∧ op ∈ Entries.keys assignOps ∧ target.IsExpression ∧ value.IsExpression
  | .update target op _ =>
    target.isTarget ∧ op ∈ Entries.keys updateOps ∧ target.IsExpression
  | .declare .. | .expr _ | .block _ | .cond .. | .loop .. | .iterate .. | .ret _ | .empty => False

/-- The nodes are expressions. -/
def Node.AreExpressions : List Node → Prop
  | [] => True
  | first :: rest => first.IsExpression ∧ Node.AreExpressions rest

/-- A part of a record literal holds an expression. -/
def Part.HoldsExpression : Part → Prop
  | .pair _ value => value.IsExpression
  | .spread value => value.IsExpression

/-- The parts of a record literal hold expressions. -/
def Part.HoldExpressions : List Part → Prop
  | [] => True
  | first :: rest => first.HoldsExpression ∧ Part.HoldExpressions rest

end

mutual

/-- A node is a statement: its parts are the statements and expressions that they should be, and a
constant has a value. -/
def Node.IsStatement : Node → Prop
  | .declare word _ value =>
    word ∈ Entries.keys declarators ∧ (word = "const" → value.isSome) ∧
      ∀ expr ∈ value, expr.IsExpression
  | .expr value => value.IsExpression
  | .block body => Node.AreStatements body
  | .cond test yes no => test.IsExpression ∧ yes.IsStatement ∧ Node.MayBeStatement no
  | .loop test body => test.IsExpression ∧ body.IsStatement
  | .iterate start test next body =>
    Node.MayBeStatement start ∧ (∀ expr ∈ test, expr.IsExpression) ∧
      (∀ expr ∈ next, expr.IsExpression) ∧ body.IsStatement
  | .ret value => ∀ expr ∈ value, expr.IsExpression
  | .empty => True
  | .literal _ | .name _ | .member .. | .index .. | .call .. | .unary .. | .binary .. | .logical ..
  | .conditional .. | .object _ | .array _ | .assign .. | .update .. => False

/-- The nodes are statements. -/
def Node.AreStatements : List Node → Prop
  | [] => True
  | first :: rest => first.IsStatement ∧ Node.AreStatements rest

/-- A node that may be left out is a statement if it is there. -/
def Node.MayBeStatement : Option Node → Prop
  | none => True
  | some stmt => stmt.IsStatement

end

/-! ## Expressions and statements as nodes -/

mutual

/-- An expression as a node. -/
def Expr.node : Expr → Node
  | .literal value => .literal value
  | .read place => place.node
  | .call callee args => .call callee.node (Expr.listNodes args)
  | .unary op operand => .unary op.symbol operand.node
  | .binary left op right => .binary left.node op.symbol right.node
  | .logical left op right => .logical left.node op.symbol right.node
  | .conditional test yes no => .conditional test.node yes.node no.node
  | .object entries => .object (Entry.listParts entries)
  | .array items => .array (Expr.listNodes items)
  | .assign target op value => .assign target.node (assignSymbol op) value.node
  | .update target op before => .update target.node op.symbol before

/-- A place as a node. -/
def Place.node : Place → Node
  | .name name => .name name
  | .member object name optional => .member object.node name optional
  | .index object index optional => .index object.node index.node optional

/-- A part of a record literal with its expression as a node. -/
def Entry.part : Entry → Part
  | .pair key value => .pair key value.node
  | .spread value => .spread value.node

/-- Some expressions as nodes. -/
def Expr.listNodes : List Expr → List Node
  | [] => []
  | expr :: rest => expr.node :: Expr.listNodes rest

/-- The parts of a record literal with their expressions as nodes. -/
def Entry.listParts : List Entry → List Part
  | [] => []
  | entry :: rest => entry.part :: Entry.listParts rest

end

mutual

/-- A statement as a node. -/
def Stmt.node : Stmt → Node
  | .declare declarator name value => .declare declarator.keyword name (value.map Expr.node)
  | .expr value => .expr value.node
  | .block body => .block (Stmt.listNodes body)
  | .cond test yes no => .cond test.node yes.node (Stmt.optionNode no)
  | .loop test body => .loop test.node body.node
  | .iterate start test next body =>
    .iterate (Stmt.optionNode start) (test.map Expr.node) (next.map Expr.node) body.node
  | .ret value => .ret (value.map Expr.node)
  | .empty => .empty

/-- Some statements as nodes. -/
def Stmt.listNodes : List Stmt → List Node
  | [] => []
  | stmt :: rest => stmt.node :: Stmt.listNodes rest

/-- A statement that may be left out as a node. -/
def Stmt.optionNode : Option Stmt → Option Node
  | none => none
  | some stmt => some stmt.node

end

/-! ## Nodes as data -/

mutual

/-- A node as data. -/
def Node.toData : Node → Data
  | .literal value => Program.node "Literal" [value.toData]
  | .name text => Program.node "Name" [.str text]
  | .member object text optional =>
    Program.node "Member" [object.toData, .str text, .bool optional]
  | .index object index optional =>
    Program.node "Index" [object.toData, index.toData, .bool optional]
  | .call callee args => Program.node "Call" [callee.toData, .list (Node.listToData args)]
  | .unary op operand => Program.node "Unary" [.str op, operand.toData]
  | .binary left op right => Program.node "Binary" [left.toData, .str op, right.toData]
  | .logical left op right => Program.node "Logical" [left.toData, .str op, right.toData]
  | .conditional test yes no =>
    Program.node "Conditional" [test.toData, yes.toData, no.toData]
  | .object parts => Program.node "ObjectLiteral" [.list (Part.listToData parts)]
  | .array items => Program.node "ArrayLiteral" [.list (Node.listToData items)]
  | .assign target op value => Program.node "Assign" [target.toData, .str op, value.toData]
  | .update target op before => Program.node "Update" [target.toData, .str op, .bool before]
  | .declare word text value =>
    Program.node "Declare" [.str word, .str text, Node.optionToData value]
  | .expr value => Program.node "ExprStmt" [value.toData]
  | .block body => Program.node "Block" [.list (Node.listToData body)]
  | .cond test yes no => Program.node "If" [test.toData, yes.toData, Node.optionToData no]
  | .loop test body => Program.node "While" [test.toData, body.toData]
  | .iterate start test next body =>
    Program.node "For"
      [Node.optionToData start, Node.optionToData test, Node.optionToData next, body.toData]
  | .ret value => Program.node "Return" [Node.optionToData value]
  | .empty => Program.node "Empty" []

/-- A part of a record literal as data. -/
def Part.toData : Part → Data
  | .pair key value => Program.node "Pair" [.str key, value.toData]
  | .spread value => Program.node "Spread" [value.toData]

/-- Some nodes as data. -/
def Node.listToData : List Node → List Data
  | [] => []
  | first :: rest => first.toData :: Node.listToData rest

/-- The parts of a record literal as data. -/
def Part.listToData : List Part → List Data
  | [] => []
  | first :: rest => first.toData :: Part.listToData rest

/-- A node that may be left out as data. -/
def Node.optionToData : Option Node → Data
  | none => .null
  | some node => node.toData

end

theorem Node.exists_toData (node : Node) :
    ∃ fields, node.toData = Program.node node.kind fields := by
  cases node <;> exact ⟨_, rfl⟩

mutual

/-- An expression is the same as data when it is written as a node. -/
theorem Expr.toData_node : ∀ expr : Expr, expr.node.toData = expr.toData
  | .literal _ => rfl
  | .read place => place.toData_node
  | .call callee args => by
    simp only [Expr.node, Node.toData, Expr.toData, callee.toData_node, listToData_listNodes args]
  | .unary op operand => by
    simp only [Expr.node, Node.toData, Expr.toData, operand.toData_node]
  | .binary left op right => by
    simp only [Expr.node, Node.toData, Expr.toData, left.toData_node, right.toData_node]
  | .logical left op right => by
    simp only [Expr.node, Node.toData, Expr.toData, left.toData_node, right.toData_node]
  | .conditional test yes no => by
    simp only [Expr.node, Node.toData, Expr.toData, test.toData_node, yes.toData_node,
      no.toData_node]
  | .object entries => by
    simp only [Expr.node, Node.toData, Expr.toData, listToData_listParts entries]
  | .array items => by
    simp only [Expr.node, Node.toData, Expr.toData, listToData_listNodes items]
  | .assign target op value => by
    cases op <;>
      simp [Expr.node, Node.toData, Expr.toData, assignSymbol, target.toData_node,
        value.toData_node]
  | .update target op before => by
    simp only [Expr.node, Node.toData, Expr.toData, target.toData_node]

theorem Place.toData_node : ∀ place : Place, place.node.toData = place.toData
  | .name _ => rfl
  | .member object _ _ => by
    simp only [Place.node, Node.toData, Place.toData, object.toData_node]
  | .index object index _ => by
    simp only [Place.node, Node.toData, Place.toData, object.toData_node, index.toData_node]

theorem Entry.toData_part : ∀ entry : Entry, entry.part.toData = entry.toData
  | .pair key value => by
    simp only [Entry.part, Part.toData, Entry.toData, value.toData_node]
  | .spread value => by
    simp only [Entry.part, Part.toData, Entry.toData, value.toData_node]

theorem listToData_listNodes :
    ∀ exprs : List Expr, Node.listToData (Expr.listNodes exprs) = Expr.listToData exprs
  | [] => rfl
  | first :: rest => by
    simp only [Expr.listNodes, Node.listToData, Expr.listToData, first.toData_node,
      listToData_listNodes rest]

theorem listToData_listParts :
    ∀ entries : List Entry, Part.listToData (Entry.listParts entries) = Entry.listToData entries
  | [] => rfl
  | first :: rest => by
    simp only [Entry.listParts, Part.listToData, Entry.listToData, first.toData_part,
      listToData_listParts rest]

end

theorem optionToData_node (value : Option Expr) :
    Node.optionToData (value.map Expr.node) = Expr.optionToData value := by
  cases value with
  | none => rfl
  | some expr => exact expr.toData_node

mutual

/-- A statement is the same as data when it is written as a node. -/
theorem Stmt.toData_node : ∀ stmt : Stmt, stmt.node.toData = stmt.toData
  | .declare declarator name value => by
    simp only [Stmt.node, Node.toData, Stmt.toData, optionToData_node]
  | .expr value => by
    simp only [Stmt.node, Node.toData, Stmt.toData, value.toData_node]
  | .block body => by
    simp only [Stmt.node, Node.toData, Stmt.toData, listToData_nodes body]
  | .cond test yes no => by
    simp only [Stmt.node, Node.toData, Stmt.toData, test.toData_node, yes.toData_node,
      optionToData_optionNode no]
  | .loop test body => by
    simp only [Stmt.node, Node.toData, Stmt.toData, test.toData_node, body.toData_node]
  | .iterate start test next body => by
    simp only [Stmt.node, Node.toData, Stmt.toData, optionToData_optionNode start,
      optionToData_node, body.toData_node]
  | .ret value => by
    simp only [Stmt.node, Node.toData, Stmt.toData, optionToData_node]
  | .empty => rfl

theorem listToData_nodes :
    ∀ body : List Stmt, Node.listToData (Stmt.listNodes body) = Stmt.listToData body
  | [] => rfl
  | first :: rest => by
    simp only [Stmt.listNodes, Node.listToData, Stmt.listToData, first.toData_node,
      listToData_nodes rest]

theorem optionToData_optionNode :
    ∀ stmt : Option Stmt, Node.optionToData (Stmt.optionNode stmt) = Stmt.optionToData stmt
  | none => rfl
  | some stmt => stmt.toData_node

end

/-! ## Expressions and statements that hold what they should -/

/-- An expression is one as a node. -/
def Expr.WellFormed (expr : Expr) : Prop :=
  expr.node.IsExpression

/-- A part of a record literal holds an expression as a node. -/
def Entry.WellFormed (entry : Entry) : Prop :=
  entry.part.HoldsExpression

/-- A statement is one as a node. -/
def Stmt.WellFormed (stmt : Stmt) : Prop :=
  stmt.node.IsStatement

theorem areExpressions_nodes {items : List Expr} :
    Node.AreExpressions (Expr.listNodes items) ↔ ∀ item ∈ items, item.WellFormed := by
  induction items with
  | nil => simp [Expr.listNodes, Node.AreExpressions]
  | cons first rest ih => simp [Expr.listNodes, Node.AreExpressions, Expr.WellFormed, ih]

theorem holdExpressions_parts {entries : List Entry} :
    Part.HoldExpressions (Entry.listParts entries) ↔ ∀ entry ∈ entries, entry.WellFormed := by
  induction entries with
  | nil => simp [Entry.listParts, Part.HoldExpressions]
  | cons first rest ih => simp [Entry.listParts, Part.HoldExpressions, Entry.WellFormed, ih]

theorem areStatements_nodes {body : List Stmt} :
    Node.AreStatements (Stmt.listNodes body) ↔ ∀ stmt ∈ body, stmt.WellFormed := by
  induction body with
  | nil => simp [Stmt.listNodes, Node.AreStatements]
  | cons first rest ih => simp [Stmt.listNodes, Node.AreStatements, Stmt.WellFormed, ih]

theorem UnaryOp.symbol_mem (op : UnaryOp) : op.symbol ∈ Entries.keys unaryOps := by
  cases op <;> decide

theorem BinaryOp.symbol_mem (op : BinaryOp) : op.symbol ∈ Entries.keys binaryOps := by
  cases op <;> decide

theorem LogicalOp.symbol_mem (op : LogicalOp) : op.symbol ∈ Entries.keys logicalOps := by
  cases op <;> decide

theorem UpdateOp.symbol_mem (op : UpdateOp) : op.symbol ∈ Entries.keys updateOps := by
  cases op <;> decide

theorem Declarator.keyword_mem (declarator : Declarator) :
    declarator.keyword ∈ Entries.keys declarators := by
  cases declarator <;> decide

theorem Place.isTarget_node (place : Place) : place.node.isTarget = true := by
  cases place <;> rfl

/-! ## Which nodes these are -/

theorem exists_of_mem_keys {α : Type} {table : Entries α} {spell : α → String}
    (htable : ∀ row ∈ table, spell row.2 = row.1) {key : String} (h : key ∈ Entries.keys table) :
    ∃ a, spell a = key := by
  obtain ⟨row, hrow, rfl⟩ := List.mem_map.mp h
  exact ⟨row.2, htable row hrow⟩

/-- What can be written is a place. -/
theorem Expr.exists_place {expr : Expr} (h : expr.node.isTarget = true) :
    ∃ place : Place, place.node = expr.node := by
  cases expr with
  | read place => exact ⟨place, rfl⟩
  | _ => simp [Expr.node, Node.isTarget] at h

mutual

/-- A node that is an expression is an expression written as a node. -/
theorem Node.exists_expr : ∀ node : Node, node.IsExpression → ∃ expr : Expr, expr.node = node
  | .literal value, _ => ⟨.literal value, rfl⟩
  | .name text, _ => ⟨.read (.name text), rfl⟩
  | .member object text optional, h => by
    obtain ⟨object, rfl⟩ := Node.exists_expr object h
    exact ⟨.read (.member object text optional), rfl⟩
  | .index object index optional, h => by
    obtain ⟨object, rfl⟩ := Node.exists_expr object h.1
    obtain ⟨index, rfl⟩ := Node.exists_expr index h.2
    exact ⟨.read (.index object index optional), rfl⟩
  | .call callee args, h => by
    obtain ⟨callee, rfl⟩ := Node.exists_expr callee h.1
    obtain ⟨args, rfl⟩ := Node.exists_exprs args h.2
    exact ⟨.call callee args, rfl⟩
  | .unary _ operand, h => by
    have htable : ∀ row ∈ unaryOps, UnaryOp.symbol row.2 = row.1 := by decide
    obtain ⟨op, rfl⟩ := exists_of_mem_keys htable h.1
    obtain ⟨operand, rfl⟩ := Node.exists_expr operand h.2
    exact ⟨.unary op operand, rfl⟩
  | .binary left _ right, h => by
    have htable : ∀ row ∈ binaryOps, BinaryOp.symbol row.2 = row.1 := by decide
    obtain ⟨op, rfl⟩ := exists_of_mem_keys htable h.1
    obtain ⟨left, rfl⟩ := Node.exists_expr left h.2.1
    obtain ⟨right, rfl⟩ := Node.exists_expr right h.2.2
    exact ⟨.binary left op right, rfl⟩
  | .logical left _ right, h => by
    have htable : ∀ row ∈ logicalOps, LogicalOp.symbol row.2 = row.1 := by decide
    obtain ⟨op, rfl⟩ := exists_of_mem_keys htable h.1
    obtain ⟨left, rfl⟩ := Node.exists_expr left h.2.1
    obtain ⟨right, rfl⟩ := Node.exists_expr right h.2.2
    exact ⟨.logical left op right, rfl⟩
  | .conditional test yes no, h => by
    obtain ⟨test, rfl⟩ := Node.exists_expr test h.1
    obtain ⟨yes, rfl⟩ := Node.exists_expr yes h.2.1
    obtain ⟨no, rfl⟩ := Node.exists_expr no h.2.2
    exact ⟨.conditional test yes no, rfl⟩
  | .object parts, h => by
    obtain ⟨entries, rfl⟩ := Part.exists_entries parts h
    exact ⟨.object entries, rfl⟩
  | .array items, h => by
    obtain ⟨items, rfl⟩ := Node.exists_exprs items h
    exact ⟨.array items, rfl⟩
  | .assign target _ value, h => by
    have htable : ∀ row ∈ assignOps, assignSymbol row.2 = row.1 := by decide
    obtain ⟨htarget, hop, hexpr, hvalue⟩ := h
    obtain ⟨op, rfl⟩ := exists_of_mem_keys htable hop
    obtain ⟨expr, rfl⟩ := Node.exists_expr target hexpr
    obtain ⟨place, hplace⟩ := Expr.exists_place htarget
    obtain ⟨value, rfl⟩ := Node.exists_expr value hvalue
    exact ⟨.assign place op value, by rw [Expr.node, hplace]⟩
  | .update target _ before, h => by
    have htable : ∀ row ∈ updateOps, UpdateOp.symbol row.2 = row.1 := by decide
    obtain ⟨htarget, hop, hexpr⟩ := h
    obtain ⟨op, rfl⟩ := exists_of_mem_keys htable hop
    obtain ⟨expr, rfl⟩ := Node.exists_expr target hexpr
    obtain ⟨place, hplace⟩ := Expr.exists_place htarget
    exact ⟨.update place op before, by rw [Expr.node, hplace]⟩
  | .declare .., h | .expr _, h | .block _, h | .cond .., h | .loop .., h | .iterate .., h
  | .ret _, h | .empty, h => h.elim

/-- Nodes that are expressions are expressions written as nodes. -/
theorem Node.exists_exprs :
    ∀ nodes : List Node, Node.AreExpressions nodes → ∃ exprs, Expr.listNodes exprs = nodes
  | [], _ => ⟨[], rfl⟩
  | first :: rest, h => by
    obtain ⟨first, rfl⟩ := Node.exists_expr first h.1
    obtain ⟨rest, rfl⟩ := Node.exists_exprs rest h.2
    exact ⟨first :: rest, rfl⟩

theorem Part.exists_entry :
    ∀ part : Part, part.HoldsExpression → ∃ entry : Entry, entry.part = part
  | .pair key value, h => by
    obtain ⟨value, rfl⟩ := Node.exists_expr value h
    exact ⟨.pair key value, rfl⟩
  | .spread value, h => by
    obtain ⟨value, rfl⟩ := Node.exists_expr value h
    exact ⟨.spread value, rfl⟩

theorem Part.exists_entries :
    ∀ parts : List Part, Part.HoldExpressions parts → ∃ entries, Entry.listParts entries = parts
  | [], _ => ⟨[], rfl⟩
  | first :: rest, h => by
    obtain ⟨first, rfl⟩ := Part.exists_entry first h.1
    obtain ⟨rest, rfl⟩ := Part.exists_entries rest h.2
    exact ⟨first :: rest, rfl⟩

end

/-- A node that may be left out, and is an expression if it is there. -/
theorem Node.exists_option {node : Option Node} (h : ∀ expr ∈ node, expr.IsExpression) :
    ∃ expr : Option Expr, expr.map Expr.node = node := by
  cases node with
  | none => exact ⟨none, rfl⟩
  | some node =>
    obtain ⟨expr, rfl⟩ := Node.exists_expr node (h node rfl)
    exact ⟨some expr, rfl⟩

mutual

/-- A node that is a statement is a statement written as a node. -/
theorem Node.exists_stmt : ∀ node : Node, node.IsStatement → ∃ stmt : Stmt, stmt.node = node
  | .declare _ text value, h => by
    have htable : ∀ row ∈ declarators, Declarator.keyword row.2 = row.1 := by decide
    obtain ⟨declarator, rfl⟩ := exists_of_mem_keys htable h.1
    obtain ⟨value, rfl⟩ := Node.exists_option h.2.2
    exact ⟨.declare declarator text value, rfl⟩
  | .expr value, h => by
    obtain ⟨value, rfl⟩ := Node.exists_expr value h
    exact ⟨.expr value, rfl⟩
  | .block body, h => by
    obtain ⟨body, rfl⟩ := Node.exists_stmts body h
    exact ⟨.block body, rfl⟩
  | .cond test yes no, h => by
    obtain ⟨test, rfl⟩ := Node.exists_expr test h.1
    obtain ⟨yes, rfl⟩ := Node.exists_stmt yes h.2.1
    obtain ⟨no, rfl⟩ := Node.exists_optionStmt no h.2.2
    exact ⟨.cond test yes no, rfl⟩
  | .loop test body, h => by
    obtain ⟨test, rfl⟩ := Node.exists_expr test h.1
    obtain ⟨body, rfl⟩ := Node.exists_stmt body h.2
    exact ⟨.loop test body, rfl⟩
  | .iterate start _ _ body, h => by
    obtain ⟨hstart, htest, hnext, hbody⟩ := h
    obtain ⟨start, rfl⟩ := Node.exists_optionStmt start hstart
    obtain ⟨test, rfl⟩ := Node.exists_option htest
    obtain ⟨next, rfl⟩ := Node.exists_option hnext
    obtain ⟨body, rfl⟩ := Node.exists_stmt body hbody
    exact ⟨.iterate start test next body, rfl⟩
  | .ret _, h => by
    obtain ⟨value, rfl⟩ := Node.exists_option h
    exact ⟨.ret value, rfl⟩
  | .empty, _ => ⟨.empty, rfl⟩
  | .literal _, h | .name _, h | .member .., h | .index .., h | .call .., h | .unary .., h
  | .binary .., h | .logical .., h | .conditional .., h | .object _, h | .array _, h
  | .assign .., h | .update .., h => h.elim

/-- Nodes that are statements are statements written as nodes. -/
theorem Node.exists_stmts :
    ∀ nodes : List Node, Node.AreStatements nodes → ∃ body, Stmt.listNodes body = nodes
  | [], _ => ⟨[], rfl⟩
  | first :: rest, h => by
    obtain ⟨first, rfl⟩ := Node.exists_stmt first h.1
    obtain ⟨rest, rfl⟩ := Node.exists_stmts rest h.2
    exact ⟨first :: rest, rfl⟩

theorem Node.exists_optionStmt :
    ∀ node : Option Node, Node.MayBeStatement node → ∃ stmt, Stmt.optionNode stmt = node
  | none, _ => ⟨none, rfl⟩
  | some node, h => by
    obtain ⟨stmt, rfl⟩ := Node.exists_stmt node h
    exact ⟨some stmt, rfl⟩

end

end Canvasflow.Program
