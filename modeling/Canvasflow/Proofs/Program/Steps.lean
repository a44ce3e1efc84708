import Canvasflow.Proofs.Program.Following
import Canvasflow.Proofs.Program.Levels

/-!
# Readers at given tokens

What a reader does at a token whose kind and text are known: it goes on behind the token, or gives
what it has read. Each is one step of the reader itself, so the runs over texts with known tokens
are put together from them.
-/

namespace Canvasflow.Program.Reader

variable {α : Type} {rest : List Token} {position : Position} {room fuel : Nat}

/-! ## Expressions -/

section Expressions

variable {item : Reader Expr} {expr : Expr} {place : Position} {name value : String}

theorem run_primary_number :
    (primary item).run (⟨.number, value, position⟩ :: rest) =
      .ok (.literal (.num (numeralValue value)), rest) := rfl

theorem run_primary_text :
    (primary item).run (⟨.text, value, position⟩ :: rest) =
      .ok (.literal (.str (unquote value)), rest) := rfl

theorem run_primary_enclosed :
    (primary item).run (⟨.op, "(", position⟩ :: rest) =
      (do
        let expr ← item
        expectOp ")"
        return expr).run rest := rfl

theorem run_primary_array :
    (primary item).run (⟨.op, "[", position⟩ :: rest) =
      (do return .array (← itemsUntil item "]" (rest.length + 1)) : Reader Expr).run rest := rfl

theorem run_primary_object :
    (primary item).run (⟨.op, "\x7b", position⟩ :: rest) =
      (do return .object (← entriesFrom item (rest.length + 1)) : Reader Expr).run rest := rfl

theorem run_suffixesFrom_index :
    (suffixesFrom item (fuel + 1) expr).run (⟨.op, "[", position⟩ :: rest) =
      (do suffixesFrom item fuel (.read (.index expr (← bracketIndex item) false))).run rest := rfl

theorem run_suffixesFrom_optionalIndex :
    (suffixesFrom item (fuel + 1) expr).run (⟨.op, "?.", position⟩ :: ⟨.op, "[", place⟩ :: rest) =
      (do suffixesFrom item fuel (.read (.index expr (← bracketIndex item) true))).run rest := rfl

theorem run_suffixesFrom_call :
    (suffixesFrom item (fuel + 1) expr).run (⟨.op, "(", position⟩ :: rest) =
      (do suffixesFrom item fuel (.call expr (← itemsUntil item ")" (rest.length + 1)))).run rest :=
  rfl

theorem run_entry_pair :
    (entry item).run (⟨.text, value, position⟩ :: ⟨.op, ":", place⟩ :: rest) =
      (do return .pair (unquote value) (← item) : Reader Entry).run rest := rfl

theorem run_entry_spread :
    (entry item).run (⟨.op, "...", position⟩ :: rest) =
      (do return .spread (← item) : Reader Entry).run rest := rfl

/-- The operators that close a list. -/
def closers : List String := [")", "]", "\x7d"]

theorem mem_closers {close : String} :
    close ∈ closers ↔ close = ")" ∨ close = "]" ∨ close = "\x7d" := by
  simp [closers]

section Lists

variable {part : Reader α} {first : α} {close : String} {tokens : List Token}
  (hclose : close ∈ closers)

include hclose

theorem run_separated_close :
    (separated part close (fuel + 1)).run (⟨.op, close, position⟩ :: rest) = .ok ([], rest) := by
  obtain rfl | rfl | rfl := mem_closers.mp hclose <;> rfl

/-- A list goes on behind a comma. -/
theorem run_separated_next (hfirst : isToken .op close (firstOf tokens) = false)
    (h : part.run tokens = .ok (first, ⟨.op, ",", position⟩ :: rest)) :
    (separated part close (fuel + 1)).run tokens =
      (do return first :: (← separated part close fuel)).run rest := by
  rw [separated, acceptOp, run_accept_else hfirst, run_bind_ok h]
  obtain rfl | rfl | rfl := mem_closers.mp hclose <;> rfl

theorem run_separated_last (hfirst : isToken .op close (firstOf tokens) = false)
    (h : part.run tokens = .ok (first, ⟨.op, close, position⟩ :: rest)) :
    (separated part close (fuel + 2)).run tokens = .ok ([first], rest) := by
  rw [separated, acceptOp, run_accept_else hfirst, run_bind_ok h]
  obtain rfl | rfl | rfl := mem_closers.mp hclose <;> rfl

end Lists

theorem run_operand_unary (op : UnaryOp) :
    (operand (room + 1)).run (⟨.op, op.symbol, position⟩ :: rest) =
      (do return .unary op (← operand room) : Reader Expr).run rest := by
  cases op <;> rfl

theorem run_operand_update (op : UpdateOp) :
    (operand (room + 1)).run (⟨.op, op.symbol, position⟩ :: rest) =
      (do
        match (← operand room).place? with
        | some target => return Expr.update target op true
        | none => throw (SyntaxFault.invalidOperand op.symbol position)).run rest := by
  cases op <;> rfl

end Expressions

/-! ## Statements -/

theorem run_statement_block :
    (statement (room + 1)).run (⟨.op, "\x7b", position⟩ :: rest) =
      (do return Stmt.block (← statementsFrom (statement room) (rest.length + 1)) :
        Reader Stmt).run rest := rfl

theorem run_statement_empty :
    (statement (room + 1)).run (⟨.op, ";", position⟩ :: rest) = .ok (.empty, rest) := rfl

theorem run_statement_enclosed :
    (statement (room + 1)).run (⟨.op, "(", position⟩ :: rest) =
      (do
        let expr ← expression room
        endStatement
        return Stmt.expr expr).run (⟨.op, "(", position⟩ :: rest) := rfl

theorem run_statement_declare (declarator : Declarator) :
    (statement (room + 1)).run (⟨.keyword, declarator.keyword, position⟩ :: rest) =
      (do
        let stmt ← declaration (expression room) declarator
        endStatement
        return stmt).run rest := by
  cases declarator <;> rfl

theorem run_statement_cond :
    (statement (room + 1)).run (⟨.keyword, "if", position⟩ :: rest) =
      (do
        let test ← parenthesized (expression room)
        let yes ← statement room
        if ← accept .keyword "else" then return Stmt.cond test yes (some (← statement room))
        else return Stmt.cond test yes none).run rest := rfl

theorem run_statement_loop :
    (statement (room + 1)).run (⟨.keyword, "while", position⟩ :: rest) =
      (do
        let test ← parenthesized (expression room)
        return Stmt.loop test (← statement room)).run rest := rfl

theorem run_statement_iterate :
    (statement (room + 1)).run (⟨.keyword, "for", position⟩ :: rest) =
      (do
        expectOp "("
        let start ← loopStart (expression room)
        expectOp ";"
        let test ← optionalUntil (expression room) ";"
        expectOp ";"
        let next ← optionalUntil (expression room) ")"
        expectOp ")"
        return Stmt.iterate start test next (← statement room)).run rest := rfl

theorem run_statement_ret :
    (statement (room + 1)).run (⟨.keyword, "return", position⟩ :: rest) =
      (do
        let value ← returned (expression room)
        endStatement
        return Stmt.ret value).run rest := rfl

theorem run_declarationsFrom_value {item : Reader Expr} {declarator : Declarator} {name : String}
    {place : Position} :
    (declarationsFrom item declarator (fuel + 1)).run
      (⟨.name, name, position⟩ :: ⟨.op, "=", place⟩ :: rest) =
      (do
        let value ← item
        if ← acceptOp "," then
          return Stmt.declare declarator name (some value) ::
            (← declarationsFrom item declarator fuel)
        else return [Stmt.declare declarator name (some value)]).run rest := rfl

theorem run_loopStart_declare {item : Reader Expr} (declarator : Declarator) :
    (loopStart item).run (⟨.keyword, declarator.keyword, position⟩ :: rest) =
      (do return some (← declaration item declarator) : Reader (Option Stmt)).run rest := by
  cases declarator <;> rfl

theorem run_loopStart_enclosed {item : Reader Expr} :
    (loopStart item).run (⟨.op, "(", position⟩ :: rest) =
      (do return some (Stmt.expr (← item)) : Reader (Option Stmt)).run
        (⟨.op, "(", position⟩ :: rest) := rfl

theorem run_optionalUntil_some {item : Reader Expr} {close : String} {tokens : List Token}
    (h : isToken .op close (firstOf tokens) = false) :
    (optionalUntil item close).run tokens =
      (do return some (← item) : Reader (Option Expr)).run tokens :=
  run_atOp_else h

theorem run_returned_some {item : Reader Expr} {tokens : List Token}
    (hend : (firstOf tokens).kind ≠ .endOfText) (hstop : isToken .op ";" (firstOf tokens) = false)
    (hclose : isToken .op "\x7d" (firstOf tokens) = false) :
    (returned item).run tokens = (do return some (← item) : Reader (Option Expr)).run tokens := by
  rw [returned, run_bind_ok run_current, hstop, hclose, beq_eq_false_iff_ne.mpr hend]
  rfl

theorem run_statementsFrom_close {statement : Reader Stmt} :
    (statementsFrom statement (fuel + 1)).run (⟨.op, "\x7d", position⟩ :: rest) =
      .ok ([], rest) := rfl

theorem run_statementsFrom_next {statement : Reader Stmt} {tokens : List Token} {first : Stmt}
    (hend : (firstOf tokens).kind ≠ .endOfText)
    (hclose : isToken .op "\x7d" (firstOf tokens) = false)
    (h : statement.run tokens = .ok (first, rest)) :
    (statementsFrom statement (fuel + 1)).run tokens =
      (do return first :: (← statementsFrom statement fuel) : Reader (List Stmt)).run rest := by
  rw [statementsFrom, acceptOp, run_accept_else hclose, run_bind_ok run_current]
  dsimp only
  rw [if_neg hend, run_bind_ok h]

end Canvasflow.Program.Reader
