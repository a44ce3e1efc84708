import Canvasflow.Program.Parser
import Canvasflow.Proofs.Number.Exact

/-!
# Programs as tokens

How expressions and statements are written, as tokens. Every expression has a level, and parentheses
stand around an operand only if its level is below the one that is read where it stands. A spelling
says how numbers and texts are written; `Spelling.exact` is one, which writes out every digit and
escapes what a quoted text cannot hold.

The nesting of a program is the room that reading its tokens takes.
-/

namespace Canvasflow.Program

open Reader (numeralValue assignOps)

/-! ## Literals -/

/-- How numbers and texts are written, so that they are read back. -/
structure Spelling where
  numeral : Float → String
  text : String → String
  numeral_read (x : Float) (h : Double.Unsigned x) : numeralValue (numeral x) = x
  text_read (value : String) : unquote (text value) = value

/-- A character of a quoted text. -/
def escaped (c : Char) : List Char :=
  if c = '\n' then ['\\', 'n'] else if c = '\\' ∨ c = '"' then ['\\', c] else [c]

/-- A text in quotes. -/
def quotedText (value : String) : String :=
  String.ofList ('"' :: (value.toList.flatMap escaped ++ ['"']))

theorem unescape_cons {c : Char} (h : c ≠ '\\') (chars : List Char) :
    unescape (c :: chars) = c :: unescape chars := by
  cases chars with
  | nil => rfl
  | cons d chars => simp [unescape, h]

theorem unescape_flatMap (chars : List Char) : unescape (chars.flatMap escaped) = chars := by
  induction chars with
  | nil => rfl
  | cons c chars ih =>
    rw [List.flatMap_cons]
    by_cases hline : c = '\n'
    · subst hline
      change escapedChar 'n' :: unescape (chars.flatMap escaped) = _
      rw [ih]
      rfl
    · by_cases hslash : c = '\\' ∨ c = '"'
      · have hback : unescape ('\\' :: c :: chars.flatMap escaped) =
            escapedChar c :: unescape (chars.flatMap escaped) := if_neg hline
        rw [escaped, if_neg hline, if_pos hslash, List.cons_append, List.singleton_append, hback,
          ih]
        obtain rfl | rfl := hslash <;> rfl
      · rw [escaped, if_neg hline, if_neg hslash]
        rw [List.singleton_append, unescape_cons (fun h => hslash (.inl h)), ih]

theorem unquote_quotedText (value : String) : unquote (quotedText value) = value := by
  rw [unquote, quotedText, String.toList_ofList, List.drop_succ_cons, List.drop_zero,
    List.dropLast_concat, unescape_flatMap, String.ofList_toList]

/-- Numbers with all their digits, and texts with what has to be escaped. -/
def Spelling.exact : Spelling where
  numeral := Double.exactNumeral
  text := quotedText
  numeral_read x h := by rw [numeralValue, Double.decimal?_exactNumeral h]; rfl
  text_read := unquote_quotedText

/-! ## Levels -/

/-- The level at which an operator is read. -/
def BinaryOp.level : BinaryOp → Nat
  | equal | notEqual | same | notSame => 5
  | less | greater | lessEqual | greaterEqual => 6
  | add | sub => 7
  | mul | div | mod => 8
  | pow => 9

/-- The level at which an operator is read. -/
def LogicalOp.level : LogicalOp → Nat
  | orElse => 2
  | or => 3
  | and => 4

/-- The levels at which the operands of an operator are read: powers group to the right, and all
other operators to the left. -/
def BinaryOp.operandLevels (op : BinaryOp) : Nat × Nat :=
  if op = pow then (10, 9) else (op.level, op.level + 1)

/-- The level at which an expression is read: assignments, conditionals, the binary operators,
powers, operators before an operand, stepping operators after one, accesses and calls, and primary
expressions. -/
def Expr.level : Expr → Nat
  | assign .. => 0
  | conditional .. => 1
  | logical _ op _ => op.level
  | binary _ op _ => op.level
  | unary .. | update _ _ true => 10
  | update _ _ false => 11
  | call .. | read (.member ..) | read (.index ..) => 12
  | read (.name _) | literal _ | object _ | array _ => 13

/-! ## Expressions -/

/-- An operator. -/
abbrev symbol (value : String) : Token := ⟨.op, value, .start⟩

/-- A word that is not a name. -/
abbrev word (value : String) : Token := ⟨.keyword, value, .start⟩

/-- A name. -/
abbrev named (value : String) : Token := ⟨.name, value, .start⟩

/-- The tokens of an operand of a level where another level is needed. -/
def enclosed (needed level : Nat) (tokens : List Token) : List Token :=
  if level < needed then symbol "(" :: (tokens ++ [symbol ")"]) else tokens

@[simp] theorem enclosed_self (level : Nat) (tokens : List Token) :
    enclosed level level tokens = tokens :=
  if_neg (Nat.lt_irrefl level)

/-- The spelling of an assigning operator. -/
def assignSymbol : Option BinaryOp → String
  | none => "="
  | some op => op.symbol ++ "="

/-- The token of a literal. -/
def Literal.token (spelling : Spelling) : Literal → Token
  | null => word "null"
  | bool true => word "true"
  | bool false => word "false"
  | num value => ⟨.number, spelling.numeral value, .start⟩
  | str value => ⟨.text, spelling.text value, .start⟩

mutual

/-- The tokens of an expression. -/
def Expr.tokens (spelling : Spelling) : Expr → List Token
  | .literal value => [value.token spelling]
  | .read place => place.tokens spelling
  | .call callee args =>
    enclosed 12 callee.level (callee.tokens spelling) ++
      symbol "(" :: Expr.listTokens spelling ")" args
  | .unary op operand =>
    symbol op.symbol :: enclosed 10 operand.level (operand.tokens spelling)
  | .binary left op right =>
    enclosed op.operandLevels.1 left.level (left.tokens spelling) ++
      symbol op.symbol :: enclosed op.operandLevels.2 right.level (right.tokens spelling)
  | .logical left op right =>
    enclosed op.level left.level (left.tokens spelling) ++
      symbol op.symbol :: enclosed (op.level + 1) right.level (right.tokens spelling)
  | .conditional test yes no =>
    enclosed 2 test.level (test.tokens spelling) ++
      symbol "?" :: (yes.tokens spelling ++ symbol ":" :: no.tokens spelling)
  | .object entries => symbol "\x7b" :: Entry.listTokens spelling entries
  | .array items => symbol "[" :: Expr.listTokens spelling "]" items
  | .assign target op value =>
    target.tokens spelling ++ symbol (assignSymbol op) :: value.tokens spelling
  | .update target op true => symbol op.symbol :: target.tokens spelling
  | .update target op false => target.tokens spelling ++ [symbol op.symbol]

/-- The tokens of a place. -/
def Place.tokens (spelling : Spelling) : Place → List Token
  | .name name => [named name]
  | .member object name optional =>
    enclosed 12 object.level (object.tokens spelling) ++
      [symbol (if optional then "?." else "."), named name]
  | .index object index optional =>
    enclosed 12 object.level (object.tokens spelling) ++
      ((if optional then [symbol "?."] else []) ++
        symbol "[" :: (index.tokens spelling ++ [symbol "]"]))

/-- The tokens of items with commas between them, and of the operator that closes their list. -/
def Expr.listTokens (spelling : Spelling) (close : String) : List Expr → List Token
  | [] => [symbol close]
  | first :: rest =>
    first.tokens spelling ++
      ((if rest.isEmpty then [] else [symbol ","]) ++ Expr.listTokens spelling close rest)

/-- The tokens of a part of a record. -/
def Entry.tokens (spelling : Spelling) : Entry → List Token
  | .pair key value => ⟨.text, spelling.text key, .start⟩ :: symbol ":" :: value.tokens spelling
  | .spread value => symbol "..." :: value.tokens spelling

/-- The tokens of the parts of a record with commas between them, and of its closing brace. -/
def Entry.listTokens (spelling : Spelling) : List Entry → List Token
  | [] => [symbol "\x7d"]
  | first :: rest =>
    first.tokens spelling ++
      ((if rest.isEmpty then [] else [symbol ","]) ++ Entry.listTokens spelling rest)

end

mutual

/-- Expressions that can be written: numbers have no sign, and an assigning operator is one of those
that there are. -/
def Expr.Printable : Expr → Prop
  | .literal (.num value) => Double.Unsigned value
  | .literal _ => True
  | .read place => place.Printable
  | .call callee args => callee.Printable ∧ Expr.ListPrintable args
  | .unary _ operand => operand.Printable
  | .binary left _ right | .logical left _ right => left.Printable ∧ right.Printable
  | .conditional test yes no => test.Printable ∧ yes.Printable ∧ no.Printable
  | .object entries => Entry.ListPrintable entries
  | .array items => Expr.ListPrintable items
  | .assign target op value =>
    target.Printable ∧ op ∈ assignOps.map Prod.snd ∧ value.Printable
  | .update target _ _ => target.Printable

/-- Places that can be written. -/
def Place.Printable : Place → Prop
  | .name _ => True
  | .member object _ _ => object.Printable
  | .index object index _ => object.Printable ∧ index.Printable

/-- Items that can be written. -/
def Expr.ListPrintable : List Expr → Prop
  | [] => True
  | first :: rest => first.Printable ∧ Expr.ListPrintable rest

/-- Parts of a record that can be written. -/
def Entry.ListPrintable : List Entry → Prop
  | [] => True
  | .pair _ value :: rest | .spread value :: rest => value.Printable ∧ Entry.ListPrintable rest

end

/-- The room for an operand of a level where another level is needed. -/
def enclosedNesting (needed level nesting : Nat) : Nat :=
  if level < needed then nesting + 3 else nesting

@[simp] theorem enclosedNesting_self (level nesting : Nat) :
    enclosedNesting level level nesting = nesting :=
  if_neg (Nat.lt_irrefl level)

mutual

/-- The room that the parts of an expression take, besides that of its level. -/
def Expr.nesting : Expr → Nat
  | .literal _ => 0
  | .read place => place.nesting
  | .call callee args =>
    max (enclosedNesting 12 callee.level callee.nesting) (Expr.listNesting args)
  | .unary _ operand => enclosedNesting 10 operand.level operand.nesting + 1
  | .binary left op right =>
    max (enclosedNesting op.operandLevels.1 left.level left.nesting)
      (enclosedNesting op.operandLevels.2 right.level right.nesting + if op = .pow then 1 else 0)
  | .logical left op right =>
    max (enclosedNesting op.level left.level left.nesting)
      (enclosedNesting (op.level + 1) right.level right.nesting)
  | .conditional test yes no =>
    max (enclosedNesting 2 test.level test.nesting) (max (yes.nesting + 1) (no.nesting + 1))
  | .object entries => Entry.listNesting entries
  | .array items => Expr.listNesting items
  | .assign target _ value => max target.nesting (value.nesting + 1)
  | .update target _ before => target.nesting + if before then 1 else 0

/-- The room that the parts of a place take. -/
def Place.nesting : Place → Nat
  | .name _ => 0
  | .member object _ _ => enclosedNesting 12 object.level object.nesting
  | .index object index _ =>
    max (enclosedNesting 12 object.level object.nesting) (index.nesting + 3)

/-- The room that items take. -/
def Expr.listNesting : List Expr → Nat
  | [] => 0
  | first :: rest => max (first.nesting + 3) (Expr.listNesting rest)

/-- The room that the parts of a record take. -/
def Entry.listNesting : List Entry → Nat
  | [] => 0
  | .pair _ value :: rest | .spread value :: rest =>
    max (value.nesting + 3) (Entry.listNesting rest)

end

/-! ## Statements -/

/-- The tokens of an expression that may be left out. -/
def optionTokens (spelling : Spelling) : Option Expr → List Token
  | none => []
  | some value => value.tokens spelling

/-- The tokens of names that are declared together, with commas between them. -/
def declaredTokens (spelling : Spelling) : List (String × Option Expr) → List Token
  | [] => []
  | (name, value) :: rest =>
    named name :: ((if value.isSome then [symbol "="] else []) ++ (optionTokens spelling value ++
      ((if rest.isEmpty then [] else [symbol ","]) ++ declaredTokens spelling rest)))

/-- The name that a declaration declares, and its value. -/
def Stmt.declared : Stmt → String × Option Expr
  | declare _ name value => (name, value)
  | _ => ("", none)

/-- The tokens of the start of a loop, up to its semicolon. Names that are declared together are
read as the block of their declarations. -/
def startTokens (spelling : Spelling) : Option Stmt → List Token
  | some (.expr value) => symbol "(" :: (value.tokens spelling ++ [symbol ")", symbol ";"])
  | some (.declare declarator name value) =>
    word declarator.keyword :: (declaredTokens spelling [(name, value)] ++ [symbol ";"])
  | some (.block (.declare declarator name value :: rest)) =>
    word declarator.keyword ::
      (declaredTokens spelling ((name, value) :: rest.map Stmt.declared) ++ [symbol ";"])
  | _ => [symbol ";"]

mutual

/-- The tokens of a statement. -/
def Stmt.tokens (spelling : Spelling) : Stmt → List Token
  | .declare declarator name value =>
    word declarator.keyword :: (declaredTokens spelling [(name, value)] ++ [symbol ";"])
  | .expr value => symbol "(" :: (value.tokens spelling ++ [symbol ")", symbol ";"])
  | .block body => symbol "\x7b" :: Stmt.listTokens spelling body
  | .cond test yes none =>
    word "if" :: symbol "(" :: (test.tokens spelling ++ symbol ")" :: yes.tokens spelling)
  | .cond test yes (some no) =>
    word "if" :: symbol "(" :: (test.tokens spelling ++ symbol ")" ::
      (yes.tokens spelling ++ word "else" :: no.tokens spelling))
  | .loop test body =>
    word "while" :: symbol "(" :: (test.tokens spelling ++ symbol ")" :: body.tokens spelling)
  | .iterate start test next body =>
    word "for" :: symbol "(" :: (startTokens spelling start ++ (optionTokens spelling test ++
      symbol ";" :: (optionTokens spelling next ++ symbol ")" :: body.tokens spelling)))
  | .ret value => word "return" :: (optionTokens spelling value ++ [symbol ";"])
  | .empty => [symbol ";"]

/-- The tokens of statements and of the brace that closes their block. -/
def Stmt.listTokens (spelling : Spelling) : List Stmt → List Token
  | [] => [symbol "\x7d"]
  | first :: rest => first.tokens spelling ++ Stmt.listTokens spelling rest

end

/-- Expressions that are left out or can be written. -/
def OptionPrintable : Option Expr → Prop
  | none => True
  | some value => value.Printable

/-- Declarations that can be written: constants have a value. -/
def DeclarationPrintable (declarator : Declarator) (value : Option Expr) : Prop :=
  (declarator = .constName → value ≠ none) ∧ OptionPrintable value

/-- Starts of loops that can be written: an expression, a declaration, or the block of several
declarations of one word. -/
def StartPrintable : Option Stmt → Prop
  | none => True
  | some (.expr value) => value.Printable
  | some (.declare declarator _ value) => DeclarationPrintable declarator value
  | some (.block (.declare declarator _ value :: rest)) =>
    DeclarationPrintable declarator value ∧ rest ≠ [] ∧
      ∀ stmt ∈ rest, ∃ name value, stmt = .declare declarator name value ∧
        DeclarationPrintable declarator value
  | some _ => False

/-- Whether the statement is a block. -/
def Stmt.isBlock : Stmt → Bool
  | block _ => true
  | _ => false

mutual

/-- Statements that can be written: what a condition or a loop runs is a block, but what stands
behind an else may be any statement. -/
def Stmt.Printable : Stmt → Prop
  | .declare declarator _ value => DeclarationPrintable declarator value
  | .expr value => value.Printable
  | .block body => Stmt.ListPrintable body
  | .cond test yes none => test.Printable ∧ yes.isBlock = true ∧ yes.Printable
  | .cond test yes (some no) =>
    test.Printable ∧ yes.isBlock = true ∧ yes.Printable ∧ no.Printable
  | .loop test body => test.Printable ∧ body.isBlock = true ∧ body.Printable
  | .iterate start test next body =>
    StartPrintable start ∧ OptionPrintable test ∧ OptionPrintable next ∧ body.isBlock = true ∧
      body.Printable
  | .ret value => OptionPrintable value
  | .empty => True

/-- Lists of statements that can be written. -/
def Stmt.ListPrintable : List Stmt → Prop
  | [] => True
  | first :: rest => first.Printable ∧ Stmt.ListPrintable rest

end

/-- The room that an expression takes that may be left out. -/
def optionNesting : Option Expr → Nat
  | none => 0
  | some value => value.nesting + 3

/-- The room that names take that are declared together. -/
def declaredNesting : List (String × Option Expr) → Nat
  | [] => 0
  | (_, value) :: rest => max (optionNesting value) (declaredNesting rest)

/-- The room that the start of a loop takes. -/
def startNesting : Option Stmt → Nat
  | some (.expr value) => value.nesting + 6
  | some (.declare _ name value) => declaredNesting [(name, value)]
  | some (.block body) => declaredNesting (body.map Stmt.declared)
  | _ => 0

mutual

/-- The room that a statement takes. -/
def Stmt.nesting : Stmt → Nat
  | .declare _ name value => declaredNesting [(name, value)] + 1
  | .expr value => value.nesting + 7
  | .block body => Stmt.listNesting body + 1
  | .cond test yes none => max (test.nesting + 3) yes.nesting + 1
  | .cond test yes (some no) => max (test.nesting + 3) (max yes.nesting no.nesting) + 1
  | .loop test body => max (test.nesting + 3) body.nesting + 1
  | .iterate start test next body =>
    max (startNesting start) (max (optionNesting test) (max (optionNesting next) body.nesting)) + 1
  | .ret value => optionNesting value + 1
  | .empty => 1

/-- The room that a list of statements takes. -/
def Stmt.listNesting : List Stmt → Nat
  | [] => 0
  | first :: rest => max first.nesting (Stmt.listNesting rest)

end

end Canvasflow.Program
