import Canvasflow.Proofs.Program.Nodes
import Canvasflow.Program.Interpreter

/-!
# Running trees of which nothing is known

A tree of nodes can be run without a check beforehand: where a node stands that should not stand
there, the run falls back on telling so. On trees that are made of expressions and statements no
run does, and it goes as the run of the program that the tree is.
-/

namespace Canvasflow.Program

/-- What an unchecked run tells of a node that should not stand where it stands. -/
inductive Fallback where
  | invalidTarget
  | unknownOperator (symbol : String)
  | unsupportedExpression (kind : String)
  | unsupportedStatement (kind : String)
  deriving DecidableEq, Repr

/-- What a fallback tells the author of a program. -/
def Fallback.message : Fallback → String
  | invalidTarget => "Invalid assignment target"
  | unknownOperator symbol => "Unknown operator " ++ Text.quoted symbol
  | unsupportedExpression kind => "Unsupported expression " ++ kind
  | unsupportedStatement kind => "Unsupported statement " ++ kind

/-- An operation of a run that can also fall back. -/
abbrev Unchecked := ExceptT Fallback Run

namespace Unchecked

variable {α β : Type}

/-- An operation of a run, which does not fall back. -/
def lift (action : Run α) : Unchecked α :=
  ExceptT.lift action

/-- Run an operation in a new innermost scope. -/
def inNewScope (action : Unchecked α) : Unchecked α :=
  ExceptT.mk (Run.inNewScope action.run)

/-- Repeat an operation while a test holds, at most the given number of times. -/
def repeatWhile (test : Unchecked Bool) (round : Unchecked Unit) : Nat → Unchecked Unit
  | 0 => pure ()
  | count + 1 => do
    if ← test then
      round
      repeatWhile test round count

/-- Apply the operator of a given spelling to two values. Under a spelling that no operator has, the
operands are still taken as numbers before the run falls back. -/
def binary (symbol : String) (a b : Value) : Unchecked Value := do
  match BinaryOp.ofSymbol? symbol with
  | some op => lift do Run.ofExcept (applyBinary (← get).heap op a b)
  | none =>
    let _ ← lift (Run.ofExcept (a.numericOperand symbol))
    let _ ← lift (Run.ofExcept (b.numericOperand symbol))
    throw (.unknownOperator symbol)

/-- Apply the operator of a given spelling to one value. A spelling that is not told apart leaves
the number as it is. -/
def unary (symbol : String) (value : Value) : Except Failure Value := do
  if symbol = "!" then return .bool (!(← value.truthy))
  else
    let number ← value.numericOperand symbol
    return .double (if symbol = "-" then -number else number)

end Unchecked

/-- How a node is named when it turns out not to be a function. -/
def Node.described : Node → String
  | .name text => text
  | .member callee text _ => callee.described ++ "." ++ text
  | _ => "expression"

/-- An operator without the equality sign that it ends in. -/
def withoutEquals (symbol : String) : String :=
  String.ofList symbol.toList.dropLast

open Unchecked in
mutual

/-- The value of a node. What is assigned to is read in place of the node that assigns to it. -/
def Node.evaluate (context : Context) : Node → Nat → Unchecked Value
  | _, 0 => lift (Run.fail .tooDeep)
  | .literal value, _ + 1 => return value.value
  | .name text, _ + 1 => lift (Run.readName text)
  | .member object text optional, room + 1 => do
    let value ← object.evaluate context room
    if Run.isNull value && optional then return .null
    lift (Run.readMember value text)
  | .index object index optional, room + 1 => do
    let value ← object.evaluate context room
    if Run.isNull value then
      if optional then return .null else lift (Run.fail (.program .nullIndex))
    let key ← index.evaluate context room
    lift (Run.readIndex value key)
  | .call callee args, room + 1 => do
    lift (Run.tick context)
    match ← callee.evaluate context room with
    | .native fn =>
      let values ← Node.evaluateAll context args room
      lift (Run.ofNative fn (callNative context.world fn values))
    | _ => lift (Run.fail (.program (.notAFunction callee.described)))
  | .unary op operand, room + 1 => do
    let value ← operand.evaluate context room
    lift (Run.ofExcept (unary op value))
  | .binary left op right, room + 1 => do
    let a ← left.evaluate context room
    let b ← right.evaluate context room
    binary op a b
  | .logical left op right, room + 1 => do
    let a ← left.evaluate context room
    if op = "&&" then
      if ← lift (Run.ofExcept a.truthy) then right.evaluate context room else return a
    else if op = "||" then
      if ← lift (Run.ofExcept a.truthy) then return a else right.evaluate context room
    else if Run.isNull a then right.evaluate context room else return a
  | .conditional test yes no, room + 1 => do
    let value ← test.evaluate context room
    if ← lift (Run.ofExcept value.truthy) then yes.evaluate context room
    else no.evaluate context room
  | .object parts, room + 1 => do
    let fields ← Part.evaluateAll context parts [] room
    lift (Run.newRecord fields)
  | .array items, room + 1 => do
    let values ← Node.evaluateAll context items room
    lift (Run.newList values)
  | .assign target op value, room + 1 => do
    let assigned ←
      if op = "=" then value.evaluate context room
      else do
        let old ← target.evaluate context (room + 1)
        let extra ← value.evaluate context room
        binary (withoutEquals op) old extra
    target.write context assigned room
    return assigned
  | .update target op before, room + 1 => do
    let value ← target.evaluate context (room + 1)
    let old ← lift (Run.ofExcept (value.numericOperand op))
    let new := if op = "++" then old + 1.0 else old - 1.0
    target.write context (.double new) room
    return .double (if before then new else old)
  | node, _ + 1 => throw (.unsupportedExpression node.kind)

/-- The values of some nodes, from left to right. -/
def Node.evaluateAll (context : Context) : List Node → Nat → Unchecked (List Value)
  | [], _ => return []
  | first :: rest, room => do
    let value ← first.evaluate context room
    return value :: (← Node.evaluateAll context rest room)

/-- The fields of a record literal, added to the fields so far. -/
def Part.evaluateAll (context : Context) :
    List Part → Entries Value → Nat → Unchecked (Entries Value)
  | [], fields, _ => return fields
  | part :: rest, fields, room => do
    Part.evaluateAll context rest (← part.evaluate context fields room) room

/-- A part of a record literal, added to the fields so far. -/
def Part.evaluate (context : Context) : Part → Entries Value → Nat → Unchecked (Entries Value)
  | .pair key value, fields, room => do
    let value ← value.evaluate context room
    return Entries.set key value fields
  | .spread value, fields, room => do
    let value ← value.evaluate context room
    lift (Run.spreadInto fields value)

/-- Write to a node. -/
def Node.write (context : Context) : Node → Value → Nat → Unchecked Unit
  | .name text, value, _ => lift (Run.writeName text value)
  | .member object text _, value, room => do
    let target ← object.evaluate context room
    lift (Run.writePart target (.str text) value)
  | .index object index _, value, room => do
    let target ← object.evaluate context room
    let key ← index.evaluate context room
    lift (Run.writePart target key value)
  | _, _, _ => throw .invalidTarget

end

/-- The value of a node that may be left out. -/
def Node.evaluate? (context : Context) (room : Nat) : Option Node → Unchecked Value
  | none => return .null
  | some node => node.evaluate context room

/-- Whether a node that may be left out counts as true; none does. -/
def Node.holds (context : Context) (room : Nat) : Option Node → Unchecked Bool
  | none => return true
  | some node => do
    let value ← node.evaluate context room
    Unchecked.lift (Run.ofExcept value.truthy)

/-- The way to declare that a word stands for; a word that is not told apart is one that declares a
name only once. -/
def Declarator.ofWord (word : String) : Declarator :=
  if word = "const" then .constName else if word = "var" then .varName else .letName

open Unchecked in
mutual

/-- Execute a node, with values evaluated to the given depth. -/
def Node.execute (context : Context) (room : Nat) : Node → Unchecked Unit
  | .declare word text value => do
    lift (Run.tick context)
    let value ← Node.evaluate? context room value
    lift (Run.declare (.ofWord word) text value)
  | .expr value => do
    lift (Run.tick context)
    let _ ← value.evaluate context room
  | .block body => do
    lift (Run.tick context)
    inNewScope (Node.executeAll context room body)
  | .cond test yes no => do
    lift (Run.tick context)
    if ← Node.holds context room (some test) then yes.execute context room
    else Node.execute? context room no
  | .loop test body => do
    lift (Run.tick context)
    repeatWhile (Node.holds context room (some test))
      (do body.execute context room; lift (Run.tick context)) (context.budget + 1)
  | .iterate start test next body => do
    lift (Run.tick context)
    inNewScope do
      Node.execute? context room start
      repeatWhile (Node.holds context room test)
        (do
          body.execute context room
          let _ ← Node.evaluate? context room next
          lift (Run.tick context))
        (context.budget + 1)
  | .ret value => do
    lift (Run.tick context)
    let value ← Node.evaluate? context room value
    lift (throw (.returned value))
  | .empty => lift (Run.tick context)
  | node => do
    lift (Run.tick context)
    throw (.unsupportedStatement node.kind)

/-- Execute some nodes in order. -/
def Node.executeAll (context : Context) (room : Nat) : List Node → Unchecked Unit
  | [] => return ()
  | first :: rest => do
    first.execute context room
    Node.executeAll context room rest

/-- Execute a node that may be left out. -/
def Node.execute? (context : Context) (room : Nat) : Option Node → Unchecked Unit
  | none => return ()
  | some node => node.execute context room

end

/-- Run a body of nodes in a scope of its own, with values evaluated to the given depth: the
fallback on which the run ends, or else its outcome, and the state at the end. -/
def Node.run (context : Context) (room : Nat) (body : List Node) (machine : Machine) :
    Except Fallback (Except Failure Value) × Machine :=
  match (Unchecked.inNewScope (Node.executeAll context room body)).run.run.run machine with
  | (.ok (.ok ()), final) => (.ok (.ok .null), final)
  | (.ok (.error fallback), final) => (.error fallback, final)
  | (.error (.returned value), final) => (.ok (.ok value), final)
  | (.error (.failed failure), final) => (.ok (.error failure.outOfRun), final)

/-! ## Runs that do not fall back -/

namespace Unchecked

variable {α β : Type}

theorem inNewScope_map (f : α → β) (action : Run α) :
    Run.inNewScope (f <$> action) = f <$> Run.inNewScope action := by
  refine ExceptT.ext ?_
  funext machine
  simp only [Run.inNewScope, ExceptT.run_map, ExceptT.run_mk]
  simp

theorem lift_bind (action : Run α) (rest : α → Run β) :
    lift (action >>= rest) = lift action >>= fun a => lift (rest a) := by
  simp [lift, ExceptT.lift, ExceptT.ext_iff, ExceptT.run_bind]

/-- An operation that does not fall back, and does as an operation of a run if that is to be
`exactly` so. -/
structure Agrees (exactly : Prop) (unchecked : Unchecked α) (action : Run α) : Prop where
  lifts : ∃ other, unchecked = lift other
  eq : exactly → unchecked = lift action

namespace Agrees

variable {exactly : Prop} {unchecked other : Unchecked α} {action action' : Run α}

theorem lift (action : Run α) : Agrees exactly (lift action) action :=
  ⟨⟨action, rfl⟩, fun _ => rfl⟩

theorem pure (a : α) : Agrees exactly (pure a) (pure a) :=
  .lift (Pure.pure a)

theorem bind {rest : α → Unchecked β} {next : α → Run β} (h : Agrees exactly unchecked action)
    (hrest : ∀ a, Agrees exactly (rest a) (next a)) :
    Agrees exactly (unchecked >>= rest) (action >>= next) where
  lifts := by
    obtain ⟨first, rfl⟩ := h.lifts
    choose second hsecond using fun a => (hrest a).lifts
    exact ⟨first >>= second, by rw [lift_bind, funext hsecond]⟩
  eq hexactly := by
    rw [lift_bind, h.eq hexactly, funext fun a => (hrest a).eq hexactly]

theorem either {c : Prop} [Decidable c] (h : c → Agrees exactly unchecked action)
    (hother : ¬ c → Agrees exactly other action') :
    Agrees exactly (if c then unchecked else other) (if c then action else action') := by
  split_ifs with hc
  exacts [h hc, hother hc]

theorem inNewScope (h : Agrees exactly unchecked action) :
    Agrees exactly (inNewScope unchecked) (Run.inNewScope action) := by
  have hlift (action : Run α) :
      Unchecked.inNewScope (Unchecked.lift action) = Unchecked.lift (Run.inNewScope action) :=
    ExceptT.ext (inNewScope_map _ action)
  obtain ⟨other, hother⟩ := h.lifts
  refine ⟨⟨Run.inNewScope other, ?_⟩, fun hexactly => ?_⟩
  · rw [hother, hlift]
  · rw [h.eq hexactly, hlift]

theorem repeatWhile {test : Unchecked Bool} {test' : Run Bool} {round : Unchecked Unit}
    {round' : Run Unit} (htest : Agrees exactly test test') (hround : Agrees exactly round round')
    (count : Nat) :
    Agrees exactly (repeatWhile test round count) (Run.repeatWhile test' round' count) := by
  induction count with
  | zero => exact .pure ()
  | succ count ih =>
    exact .bind htest fun again => .either (fun _ => .bind hround fun _ => ih) fun _ => .pure ()

end Agrees

theorem unary_symbol (op : UnaryOp) (value : Value) :
    unary op.symbol value = applyUnary op value := by
  cases op <;> rfl

theorem ofSymbol?_symbol (op : BinaryOp) : BinaryOp.ofSymbol? op.symbol = some op := by
  cases op <;> rfl

theorem withoutEquals_assignSymbol (op : BinaryOp) :
    withoutEquals (assignSymbol (some op)) = op.symbol := by
  simp [withoutEquals, assignSymbol]

theorem assignSymbol_eq_iff (op : Option BinaryOp) : assignSymbol op = "=" ↔ op = none := by
  cases op with
  | none => simp [assignSymbol]
  | some op => cases op <;> decide

theorem binary_agrees {exactly : Prop} (op : BinaryOp) (a b : Value) :
    Agrees exactly (binary op.symbol a b)
      (do Run.ofExcept (applyBinary (← get).heap op a b)) := by
  rw [binary, ofSymbol?_symbol]
  exact .lift _

end Unchecked

mutual

theorem Expr.described_node : ∀ expr : Expr, expr.node.described = expr.described
  | .read place => by rw [Expr.node, Expr.described, place.described_node]
  | .literal _ | .call .. | .unary .. | .binary .. | .logical .. | .conditional .. | .object _
  | .array _ | .assign .. | .update .. => rfl

theorem Place.described_node : ∀ place : Place, place.node.described = place.described
  | .name _ | .index .. => rfl
  | .member object name _ => by
    rw [Place.node, Node.described, Place.described, object.described_node]

end

section Expressions

open Unchecked

variable (exactly : Prop) (context : Context)

mutual

/-- An expression written as a node is evaluated as the expression. -/
theorem evaluate_agrees : ∀ (expr : Expr) (room : Nat),
    Agrees exactly (expr.node.evaluate context room) (evaluate context expr room)
  | expr, 0 => by
    simp only [Node.evaluate, evaluate]
    exact .lift _
  | .literal value, room + 1 => by
    simp only [Expr.node, Node.evaluate, evaluate]
    exact .pure _
  | .read place, room + 1 => readPlace_agrees place room
  | .call callee args, room + 1 => by
    simp only [Expr.node, Node.evaluate, evaluate]
    refine .bind (.lift _) fun _ => .bind (evaluate_agrees callee room) fun value => ?_
    cases value with
    | native fn => exact .bind (evaluateAll_agrees args room) fun values => .lift _
    | _ =>
      rw [callee.described_node]
      exact .lift _
  | .unary op operand, room + 1 => by
    simp only [Expr.node, Node.evaluate, evaluate]
    refine .bind (evaluate_agrees operand room) fun value => ?_
    rw [unary_symbol]
    exact .lift _
  | .binary left op right, room + 1 => by
    simp only [Expr.node, Node.evaluate, evaluate]
    exact .bind (evaluate_agrees left room) fun a =>
      .bind (evaluate_agrees right room) fun b => binary_agrees op a b
  | .logical left op right, room + 1 => by
    simp only [Expr.node, Node.evaluate, evaluate]
    refine .bind (evaluate_agrees left room) fun a => ?_
    have hright := evaluate_agrees right room
    cases op with
    | and => exact .bind (.lift _) fun _ => .either (fun _ => hright) fun _ => .pure _
    | or => exact .bind (.lift _) fun _ => .either (fun _ => .pure _) fun _ => hright
    | orElse =>
      rw [if_neg (by decide), if_neg (by decide)]
      exact .either (fun _ => hright) fun _ => .pure _
  | .conditional test yes no, room + 1 => by
    simp only [Expr.node, Node.evaluate, evaluate]
    exact .bind (evaluate_agrees test room) fun value => .bind (.lift _) fun _ =>
      .either (fun _ => evaluate_agrees yes room) fun _ => evaluate_agrees no room
  | .object entries, room + 1 => by
    simp only [Expr.node, Node.evaluate, evaluate]
    exact .bind (evaluateEntries_agrees entries [] room) fun _ => .lift _
  | .array items, room + 1 => by
    simp only [Expr.node, Node.evaluate, evaluate]
    exact .bind (evaluateAll_agrees items room) fun _ => .lift _
  | .assign target op value, room + 1 => by
    simp only [Expr.node, Node.evaluate, evaluate]
    have hwrite (assigned : Value) : Agrees exactly
        (do target.node.write context assigned room; return assigned)
        (do writePlace context target assigned room; return assigned) :=
      .bind (writePlace_agrees target assigned room) fun _ => .pure _
    cases op with
    | none =>
      rw [if_pos ((assignSymbol_eq_iff none).mpr rfl)]
      exact .bind (evaluate_agrees value room) hwrite
    | some op =>
      rw [if_neg (by simp [assignSymbol_eq_iff]), withoutEquals_assignSymbol]
      refine .bind (readPlace_agrees target room) fun old =>
        .bind (evaluate_agrees value room) fun extra => ?_
      simpa only [bind_assoc] using .bind (binary_agrees op old extra) hwrite
  | .update target op before, room + 1 => by
    simp only [Expr.node, Node.evaluate, evaluate]
    refine .bind (readPlace_agrees target room) fun value => .bind (.lift _) fun old => ?_
    cases op <;> exact .bind (writePlace_agrees target _ room) fun _ => .pure _

theorem evaluateAll_agrees : ∀ (exprs : List Expr) (room : Nat),
    Agrees exactly (Node.evaluateAll context (Expr.listNodes exprs) room)
      (evaluateAll context exprs room)
  | [], room => .pure []
  | first :: rest, room => by
    simp only [Expr.listNodes, Node.evaluateAll, evaluateAll]
    exact .bind (evaluate_agrees first room) fun _ =>
      .bind (evaluateAll_agrees rest room) fun _ => .pure _

theorem evaluateEntries_agrees : ∀ (entries : List Entry) (fields : Entries Value) (room : Nat),
    Agrees exactly (Part.evaluateAll context (Entry.listParts entries) fields room)
      (evaluateEntries context entries fields room)
  | [], fields, room => .pure fields
  | first :: rest, fields, room => by
    simp only [Entry.listParts, Part.evaluateAll, evaluateEntries]
    exact .bind (evaluateEntry_agrees first fields room) fun fields =>
      evaluateEntries_agrees rest fields room

theorem evaluateEntry_agrees : ∀ (entry : Entry) (fields : Entries Value) (room : Nat),
    Agrees exactly (entry.part.evaluate context fields room)
      (evaluateEntry context entry fields room)
  | .pair key value, fields, room => by
    simp only [Entry.part, Part.evaluate, evaluateEntry]
    exact .bind (evaluate_agrees value room) fun _ => .pure _
  | .spread value, fields, room => by
    simp only [Entry.part, Part.evaluate, evaluateEntry]
    exact .bind (evaluate_agrees value room) fun _ => .lift _

/-- A place written as a node is read as the place. -/
theorem readPlace_agrees : ∀ (place : Place) (room : Nat),
    Agrees exactly (place.node.evaluate context (room + 1)) (readPlace context place room)
  | .name name, room => by
    simp only [Place.node, Node.evaluate, readPlace]
    exact .lift _
  | .member object name optional, room => by
    simp only [Place.node, Node.evaluate, readPlace]
    exact .bind (evaluate_agrees object room) fun value =>
      .either (fun _ => .pure _) fun _ => .lift _
  | .index object index optional, room => by
    simp only [Place.node, Node.evaluate, readPlace]
    refine .bind (evaluate_agrees object room) fun value => ?_
    have hread : Agrees exactly
        (do
          let key ← index.node.evaluate context room
          lift (Run.readIndex value key))
        (do Run.readIndex value (← evaluate context index room)) :=
      .bind (evaluate_agrees index room) fun key => .lift _
    refine .either (fun _ => .either (fun _ => .pure _) fun _ => ?_) fun _ => hread
    exact .bind (.lift _) fun _ => hread

/-- A place written as a node is written as the place. -/
theorem writePlace_agrees : ∀ (place : Place) (value : Value) (room : Nat),
    Agrees exactly (place.node.write context value room) (writePlace context place value room)
  | .name name, value, room => by
    simp only [Place.node, Node.write, writePlace]
    exact .lift _
  | .member object name optional, value, room => by
    simp only [Place.node, Node.write, writePlace]
    exact .bind (evaluate_agrees object room) fun _ => .lift _
  | .index object index optional, value, room => by
    simp only [Place.node, Node.write, writePlace]
    exact .bind (evaluate_agrees object room) fun _ =>
      .bind (evaluate_agrees index room) fun _ => .lift _

end

end Expressions

section Statements

open Unchecked

variable (context : Context) (room : Nat)

/-- At any depth a node is evaluated without falling back, but only the depth to which programs are
evaluated is that of the expression in a statement. -/
theorem valueOf_agrees (expr : Expr) :
    Agrees (room = evaluationRoom) (expr.node.evaluate context room) (valueOf context expr) where
  lifts := (evaluate_agrees True context expr room).lifts
  eq h := by
    subst h
    exact (evaluate_agrees True context expr evaluationRoom).eq trivial

theorem valueOf?_agrees (expr : Option Expr) :
    Agrees (room = evaluationRoom) (Node.evaluate? context room (expr.map Expr.node))
      (valueOf? context expr) := by
  cases expr with
  | none => exact .pure _
  | some expr => exact valueOf_agrees context room expr

theorem holds_agrees (expr : Option Expr) :
    Agrees (room = evaluationRoom) (Node.holds context room (expr.map Expr.node))
      (holds context expr) := by
  cases expr with
  | none => exact .pure _
  | some expr => exact .bind (valueOf_agrees context room expr) fun _ => .lift _

theorem ofWord_keyword (declarator : Declarator) :
    Declarator.ofWord declarator.keyword = declarator := by
  cases declarator <;> rfl

mutual

/-- A statement written as a node is executed as the statement. -/
theorem execute_agrees : ∀ stmt : Stmt,
    Agrees (room = evaluationRoom) (stmt.node.execute context room) (execute context stmt)
  | .declare declarator name value => by
    simp only [Stmt.node, Node.execute, execute, ofWord_keyword]
    exact .bind (.lift _) fun _ => .bind (valueOf?_agrees context room value) fun _ => .lift _
  | .expr value => by
    simp only [Stmt.node, Node.execute, execute]
    exact .bind (.lift _) fun _ => .bind (valueOf_agrees context room value) fun _ => .pure ()
  | .block body => by
    simp only [Stmt.node, Node.execute, execute]
    exact .bind (.lift _) fun _ => .inNewScope (executeAll_agrees body)
  | .cond test yes none => by
    simp only [Stmt.node, Node.execute, execute]
    exact .bind (.lift _) fun _ => .bind (holds_agrees context room (some test)) fun _ =>
      .either (fun _ => execute_agrees yes) fun _ => .pure ()
  | .cond test yes (some no) => by
    simp only [Stmt.node, Node.execute, execute]
    exact .bind (.lift _) fun _ => .bind (holds_agrees context room (some test)) fun _ =>
      .either (fun _ => execute_agrees yes) fun _ => execute_agrees no
  | .loop test body => by
    simp only [Stmt.node, Node.execute, execute]
    refine .bind (.lift _) fun _ => .repeatWhile (holds_agrees context room (some test)) ?_ _
    exact .bind (execute_agrees body) fun _ => .lift _
  | .iterate start test next body => by
    simp only [Stmt.node, Node.execute, execute]
    have hrounds := Agrees.repeatWhile (holds_agrees context room test)
      (.bind (execute_agrees body) fun _ =>
        .bind (valueOf?_agrees context room next) fun _ => .lift (Run.tick context))
      (context.budget + 1)
    refine .bind (.lift _) fun _ => .inNewScope ?_
    cases start with
    | none => exact .bind (.pure ()) fun _ => hrounds
    | some stmt => exact .bind (execute_agrees stmt) fun _ => hrounds
  | .ret value => by
    simp only [Stmt.node, Node.execute, execute]
    exact .bind (.lift _) fun _ => .bind (valueOf?_agrees context room value) fun _ => .lift _
  | .empty => by
    simp only [Stmt.node, Node.execute, execute]
    exact .lift _

theorem executeAll_agrees : ∀ body : List Stmt,
    Agrees (room = evaluationRoom) (Node.executeAll context room (Stmt.listNodes body))
      (executeAll context body)
  | [] => .pure ()
  | first :: rest => by
    simp only [Stmt.listNodes, Node.executeAll, executeAll]
    exact .bind (execute_agrees first) fun _ => executeAll_agrees rest

end

end Statements

/-! ## Whole runs -/

theorem Unchecked.run_lift {α : Type} (action : Run α) (machine : Machine) :
    (Unchecked.lift action).run.run.run machine =
      ((action.run.run machine).1.map .ok, (action.run.run machine).2) := by
  rw [Unchecked.lift, ExceptT.run_lift, ExceptT.run_map]
  rfl

/-- A body written as nodes runs as the body. -/
theorem Node.run_listNodes (context : Context) (body : List Stmt) (machine : Machine) :
    Node.run context evaluationRoom (Stmt.listNodes body) machine =
      (.ok (Program.run context body machine).1, (Program.run context body machine).2) := by
  have hbody := (executeAll_agrees context evaluationRoom body).inNewScope.eq rfl
  rw [Node.run, hbody, Unchecked.run_lift, Program.run]
  rcases (Run.inNewScope (Program.executeAll context body)).run.run machine with
    ⟨(_ | _) | _, _⟩ <;> rfl

/-- A body of statements never falls back, whatever the scopes in which it runs and the depth to
which values are evaluated. -/
theorem Node.run_of_areStatements {body : List Node} (h : Node.AreStatements body)
    (context : Context) (room : Nat) (machine : Machine) :
    ∃ result, (Node.run context room body machine).1 = .ok result := by
  obtain ⟨stmts, rfl⟩ := Node.exists_stmts body h
  obtain ⟨action, haction⟩ := (executeAll_agrees context room stmts).inNewScope.lifts
  rw [Node.run, haction, Unchecked.run_lift]
  rcases action.run.run machine with ⟨(_ | _) | _, _⟩ <;> exact ⟨_, rfl⟩

/-- A literal cannot be assigned to. -/
example :
    (Node.run ⟨.none, 5⟩ 3 [.expr (.assign (.literal .null) "=" (.literal .null))]
      (.start ⟨#[]⟩ 0 [])).1 = .error .invalidTarget := by rfl

/-- An operator that there is not is refused only after its operands are taken as numbers. -/
example :
    (Node.run ⟨.none, 5⟩ 3
      [.ret (some (.binary (.literal (.bool true)) "&" (.literal (.bool true))))]
      (.start ⟨#[]⟩ 0 [])).1 = .error (.unknownOperator "&") := by rfl

end Canvasflow.Program
