import Canvasflow.Program.Native

/-!
# Running programs

The evaluation of expressions and the execution of statements over the state of a run. A return and
a failure both stop the run; the state at that point, with its steps and its log, is kept. Every
statement, every call and every round of a loop takes a step of the budget, so a loop may simply be
given one more round than there are steps. Expressions are evaluated to a limited depth.
-/

namespace Canvasflow.Program

/-- How a run stops before its end. -/
inductive Stop where
  | returned (value : Value)
  | failed (failure : Failure)

/-- An operation of a run. -/
abbrev Run := ExceptT Stop (StateM Machine)

/-- What a run is given: its surroundings, and the number of steps it may take. -/
structure Context where
  world : World
  maxSteps : Int

/-- The budget of steps; a run that may take fewer than none may take none. -/
def Context.budget (context : Context) : Nat :=
  context.maxSteps.toNat

namespace Run

/-- Stop with a failure. -/
def fail {α : Type} (failure : Failure) : Run α :=
  throw (.failed failure)

/-- A pure operation. -/
def ofExcept {α : Type} (result : Except Failure α) : Run α :=
  match result with
  | .ok value => pure value
  | .error failure => fail failure

/-- An operation of a native function, whose failures are reported in its name. -/
def ofNative (fn : Native) (action : Action Value) : Run Value :=
  ExceptT.mk do
    match ← action.run with
    | .ok value => return .ok value
    | .error failure => return .error (.failed (failure.insideNative fn.name))

/-- Take a step of the budget. -/
def tick (context : Context) : Run Unit := do
  modify fun machine => { machine with steps := machine.steps + 1 }
  if context.budget < (← get).steps then
    fail (.program (.stepBudget context.maxSteps))

/-- Run an operation in a new innermost scope. -/
def inNewScope {α : Type} (action : Run α) : Run α :=
  ExceptT.mk do
    modify fun machine => { machine with scopes := ⟨[], []⟩ :: machine.scopes }
    let result ← action.run
    modify fun machine => { machine with scopes := machine.scopes.tail }
    return result

/-- Declare a name in the innermost scope. Only a `var` may be declared again. -/
def declare (declarator : Declarator) (name : String) (value : Value) : Run Unit := do
  let machine ← get
  match machine.scopes with
  | [] => return ()
  | frame :: outer =>
    if Entries.has name frame.values &&
        (declarator != .varName || frame.constants.contains name) then
      fail (.program (.alreadyDeclared name))
    let constants :=
      if declarator = .constName then name :: frame.constants else frame.constants
    set { machine with scopes := ⟨Entries.set name value frame.values, constants⟩ :: outer }

/-- The value of a name in the innermost scope that has it. -/
def lookup? (name : String) : List Frame → Option Value
  | [] => none
  | frame :: outer => match Entries.find? name frame.values with
    | some value => some value
    | none => lookup? name outer

/-- Assign to a name in the innermost scope that has it. -/
def assignIn (name : String) (value : Value) : List Frame → Except Failure (List Frame)
  | [] => fault (.notDefined name)
  | frame :: outer =>
    if Entries.has name frame.values then
      if frame.constants.contains name then fault (.constantAssigned name)
      else .ok ({ frame with values := Entries.set name value frame.values } :: outer)
    else do return frame :: (← assignIn name value outer)

/-- Read a name. -/
def readName (name : String) : Run Value := do
  match lookup? name (← get).scopes with
  | some value => return value
  | none => fail (.program (.notDefined name))

/-- Write a name. -/
def writeName (name : String) (value : Value) : Run Unit := do
  let machine ← get
  let scopes ← ofExcept (assignIn name value machine.scopes)
  set { machine with scopes := scopes }

/-- A stamp that no other value has. -/
def freshStamp : Run Nat := do
  let machine ← get
  set { machine with stamps := machine.stamps + 1 }
  return machine.stamps

/-- Read a member. -/
def readMember (value : Value) (name : String) : Run Value := do
  let stamp ← freshStamp
  ofExcept (getMember (← get).heap stamp value name)

/-- Read an indexed part. -/
def readIndex (value key : Value) : Run Value := do
  let stamp ← freshStamp
  ofExcept (getIndex (← get).heap stamp value key)

/-- Write a member or an indexed part. -/
def writePart (target key value : Value) : Run Unit := do
  let machine ← get
  let heap ← ofExcept (setMember machine.heap target key value)
  set { machine with heap := heap }

/-- A new list. -/
def newList (items : List Value) : Run Value := do
  let machine ← get
  let (place, heap) := machine.heap.alloc (.list items.toArray)
  set { machine with heap := heap }
  return .list place

/-- A new record. -/
def newRecord (fields : Entries Value) : Run Value := do
  let machine ← get
  let (place, heap) := machine.heap.alloc (.record fields)
  set { machine with heap := heap }
  return .record place

/-- Add the fields of a record to some fields; null, numbers and truth values have none, and nothing
else may be spread. -/
def spreadInto (fields : Entries Value) (value : Value) : Run (Entries Value) := do
  match value with
  | .record place => return Entries.merge fields ((← get).heap.fields place)
  | .null | .num _ | .bool _ => return fields
  | .str _ | .list _ | .native _ | .space _ => fail (.program (.cannotSpread value.type))

/-- Whether a value is null. -/
def isNull : Value → Bool
  | .null => true
  | _ => false

/-- Repeat an operation while a test holds, at most the given number of times. -/
def repeatWhile (test : Run Bool) (round : Run Unit) : Nat → Run Unit
  | 0 => pure ()
  | count + 1 => do
    if ← test then
      round
      repeatWhile test round count

end Run

/-- The value of a literal. -/
def Literal.value : Literal → Value
  | null => .null
  | bool value => .bool value
  | num value => .double value
  | str value => .str value

mutual

/-- How an expression is named when it turns out not to be a function. -/
def Expr.described : Expr → String
  | .read place => place.described
  | _ => "expression"

/-- How a place is named when it turns out not to hold a function. -/
def Place.described : Place → String
  | .name name => name
  | .member object name _ => object.described ++ "." ++ name
  | .index .. => "expression"

end

open Run in
mutual

/-- The value of an expression. -/
def evaluate (context : Context) : Expr → Nat → Run Value
  | _, 0 => fail .tooDeep
  | .literal value, _ + 1 => return value.value
  | .read place, room + 1 => readPlace context place room
  | .call callee args, room + 1 => do
    tick context
    match ← evaluate context callee room with
    | .native fn =>
      let values ← evaluateAll context args room
      ofNative fn (callNative context.world fn values)
    | _ => fail (.program (.notAFunction callee.described))
  | .unary op operand, room + 1 => do
    let value ← evaluate context operand room
    ofExcept (applyUnary op value)
  | .binary left op right, room + 1 => do
    let a ← evaluate context left room
    let b ← evaluate context right room
    ofExcept (applyBinary (← get).heap op a b)
  | .logical left op right, room + 1 => do
    let a ← evaluate context left room
    match op with
    | .and => if ← ofExcept a.truthy then evaluate context right room else return a
    | .or => if ← ofExcept a.truthy then return a else evaluate context right room
    | .orElse => if isNull a then evaluate context right room else return a
  | .conditional test yes no, room + 1 => do
    if ← ofExcept (← evaluate context test room).truthy then evaluate context yes room
    else evaluate context no room
  | .object entries, room + 1 => do
    newRecord (← evaluateEntries context entries [] room)
  | .array items, room + 1 => do
    newList (← evaluateAll context items room)
  | .assign target op value, room + 1 => do
    let assigned ← match op with
      | none => evaluate context value room
      | some op => do
        let old ← readPlace context target room
        let extra ← evaluate context value room
        ofExcept (applyBinary (← get).heap op old extra)
    writePlace context target assigned room
    return assigned
  | .update target op before, room + 1 => do
    let old ← ofExcept ((← readPlace context target room).numericOperand op.symbol)
    let new := match op with
      | .increment => old + 1.0
      | .decrement => old - 1.0
    writePlace context target (.double new) room
    return .double (if before then new else old)

/-- The values of some expressions, from left to right. -/
def evaluateAll (context : Context) : List Expr → Nat → Run (List Value)
  | [], _ => return []
  | first :: rest, room => do
    let value ← evaluate context first room
    return value :: (← evaluateAll context rest room)

/-- The fields of a record literal, added to the fields so far. -/
def evaluateEntries (context : Context) : List Entry → Entries Value → Nat → Run (Entries Value)
  | [], fields, _ => return fields
  | entry :: rest, fields, room => do
    evaluateEntries context rest (← evaluateEntry context entry fields room) room

/-- A part of a record literal, added to the fields so far. -/
def evaluateEntry (context : Context) : Entry → Entries Value → Nat → Run (Entries Value)
  | .pair key expr, fields, room => do
    let value ← evaluate context expr room
    return Entries.set key value fields
  | .spread expr, fields, room => do
    spreadInto fields (← evaluate context expr room)

/-- Read a place. -/
def readPlace (context : Context) : Place → Nat → Run Value
  | .name name, _ => readName name
  | .member object name optional, room => do
    let value ← evaluate context object room
    if isNull value && optional then return .null
    readMember value name
  | .index object index optional, room => do
    let value ← evaluate context object room
    if isNull value then
      if optional then return .null else fail (.program .nullIndex)
    readIndex value (← evaluate context index room)

/-- Write a place. -/
def writePlace (context : Context) : Place → Value → Nat → Run Unit
  | .name name, value, _ => writeName name value
  | .member object name _, value, room => do
    writePart (← evaluate context object room) (.str name) value
  | .index object index _, value, room => do
    let target ← evaluate context object room
    let key ← evaluate context index room
    writePart target key value

end

/-- The depth to which expressions are evaluated. -/
def evaluationRoom : Nat := 900

/-- The value of an expression in a statement. -/
def valueOf (context : Context) (expr : Expr) : Run Value :=
  evaluate context expr evaluationRoom

/-- The value of an expression that may be left out. -/
def valueOf? (context : Context) : Option Expr → Run Value
  | none => return .null
  | some expr => valueOf context expr

/-- Whether an expression that may be left out counts as true; none does. -/
def holds (context : Context) : Option Expr → Run Bool
  | none => return true
  | some expr => do Run.ofExcept (← valueOf context expr).truthy

open Run in
mutual

/-- Execute a statement. -/
def execute (context : Context) : Stmt → Run Unit
  | .declare declarator name value => do
    tick context
    declare declarator name (← valueOf? context value)
  | .expr value => do
    tick context
    let _ ← valueOf context value
  | .block body => do
    tick context
    inNewScope (executeAll context body)
  | .cond test yes no => do
    tick context
    if ← holds context (some test) then execute context yes
    else match no with
      | some stmt => execute context stmt
      | none => return ()
  | .loop test body => do
    tick context
    repeatWhile (holds context (some test)) (do execute context body; tick context)
      (context.budget + 1)
  | .iterate start test next body => do
    tick context
    inNewScope do
      match start with
      | some stmt => execute context stmt
      | none => pure ()
      repeatWhile (holds context test)
        (do
          execute context body
          let _ ← valueOf? context next
          tick context)
        (context.budget + 1)
  | .ret value => do
    tick context
    throw (.returned (← valueOf? context value))
  | .empty => tick context

/-- Execute some statements in order. -/
def executeAll (context : Context) : List Stmt → Run Unit
  | [] => return ()
  | first :: rest => do
    execute context first
    executeAll context rest

end

/-- The state in which a run starts: a heap, and the names of the outermost scope. -/
def Machine.start (heap : Heap) (stamps : Nat) (names : Entries Value) : Machine where
  heap := heap
  scopes := [⟨names, []⟩]
  steps := 0
  log := #[]
  stamps := stamps
  draws := 0

/-- Run a body in a scope of its own: the value that it returns, which is null if it returns none,
or the failure that stops it, and the state at the end. -/
def run (context : Context) (body : List Stmt) (machine : Machine) : Except Failure Value × Machine :=
  match (Run.inNewScope (executeAll context body)).run.run machine with
  | (.ok (), final) => (.ok .null, final)
  | (.error (.returned value), final) => (.ok value, final)
  | (.error (.failed failure), final) => (.error failure.outOfRun, final)

/-- The names that every program can read. -/
def globals : Entries Value :=
  [("Math", .space .math), ("console", .space .console), ("Number", Builtin.number.value),
    ("String", Builtin.string.value), ("Boolean", Builtin.boolean.value),
    ("isNaN", Builtin.isNaN.value), ("Infinity", .double Double.infinity),
    ("NaN", .double Double.notANumber)]

end Canvasflow.Program
