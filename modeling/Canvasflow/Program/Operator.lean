import Canvasflow.Program.Convert
import Canvasflow.Program.Syntax

/-!
# Operators

What the operators compute. Arithmetic is on doubles; a division by zero is an infinity or not a
number, a remainder has the sign of the dividend, and a power is not a number where real powers are
not defined. Texts are ordered by code points, everything else as doubles, while `===` compares the
numbers themselves.
-/

namespace Canvasflow.Program

/-- Whether the sign bit of a double is set. -/
def signBit (x : Float) : Bool :=
  x.toBits ≥ 0x8000000000000000

/-- A quotient; a division by zero is an infinity with the sign of the quotient, or not a number
when the dividend is zero too. -/
def divide (a b : Float) : Float :=
  if b == 0.0 then
    if a == 0.0 || a.isNaN then Double.notANumber
    else Double.withSign (signBit a != signBit b) Double.infinity
  else a / b

/-- A remainder with the sign of the dividend. -/
def modulo (a b : Float) : Float :=
  if b == 0.0 || a.isInf || a.isNaN || b.isNaN then Double.notANumber
  else if b.isInf then a
  else Double.remainder a b

/-- Whether a double is an odd whole number. -/
def isOdd (x : Float) : Bool :=
  Double.isWhole x && (Double.truncate? x).any (· % 2 = 1)

/-- A power of the operator `**`, over a power function `pow` of doubles. A power that is too large is
an infinity, a negative one for an odd power of a negative number. -/
def power (pow : Float → Float → Float) (a b : Float) : Float :=
  if b.isInf && a.abs == 1.0 then Double.notANumber
  else if a == 0.0 && b < 0.0 then Double.infinity
  else if a < 0.0 && a.isFinite && b.isFinite && !Double.isWhole b then
    if (pow a.abs b).isInf then Double.infinity else Double.notANumber
  else if a.isFinite && b.isFinite && (pow a b).isInf then
    if a < 0.0 && isOdd b then -Double.infinity else Double.infinity
  else pow a b

/-- The four orderings. -/
inductive Comparison where
  | less
  | greater
  | lessEqual
  | greaterEqual
  deriving DecidableEq, Repr

/-- Compare two texts by code points. -/
def Comparison.texts : Comparison → String → String → Bool
  | less, a, b => a < b
  | greater, a, b => b < a
  | lessEqual, a, b => !(b < a)
  | greaterEqual, a, b => !(a < b)

/-- Compare two doubles. -/
def Comparison.doubles : Comparison → Float → Float → Bool
  | less, a, b => a < b
  | greater, a, b => a > b
  | lessEqual, a, b => a ≤ b
  | greaterEqual, a, b => a ≥ b

/-- Compare two values: texts as texts, anything else as numbers. -/
def compareValues (comparison : Comparison) (op : String) (a b : Value) : Except Failure Value :=
  match a, b with
  | .str left, .str right => .ok (.bool (comparison.texts left right))
  | _, _ => do
    let left ← a.numericOperand op
    let right ← b.numericOperand op
    return .bool (comparison.doubles left right)

/-- Compute with two values as doubles. -/
def compute (operation : Float → Float → Float) (op : String) (a b : Value) :
    Except Failure Value := do
  let left ← a.numericOperand op
  let right ← b.numericOperand op
  return .double (operation left right)

/-- Add two values: as texts when one of them is a text, else as numbers. -/
def addValues (heap : Heap) (a b : Value) : Except Failure Value :=
  match a, b with
  | .str _, _ | _, .str _ => do
    let left ← a.text heap
    let right ← b.text heap
    checkLength (left.length + right.length) "string"
    return .str (left ++ right)
  | _, _ => compute (· + ·) "+" a b

/-- Apply an operator to two values. -/
def applyBinary (heap : Heap) (op : BinaryOp) (a b : Value) : Except Failure Value :=
  match op with
  | .add => addValues heap a b
  | .sub => compute (· - ·) op.symbol a b
  | .mul => compute (· * ·) op.symbol a b
  | .div => compute divide op.symbol a b
  | .mod => compute modulo op.symbol a b
  | .pow => compute (power Float.pow) op.symbol a b
  | .same => .ok (.bool (a.same b))
  | .notSame => .ok (.bool (!a.same b))
  | .equal => do return .bool (← a.looseSame b)
  | .notEqual => do return .bool (!(← a.looseSame b))
  | .less => compareValues .less op.symbol a b
  | .greater => compareValues .greater op.symbol a b
  | .lessEqual => compareValues .lessEqual op.symbol a b
  | .greaterEqual => compareValues .greaterEqual op.symbol a b

/-- The operators that evaluate both operands. -/
def BinaryOp.all : List BinaryOp :=
  [.add, .sub, .mul, .div, .mod, .pow, .equal, .notEqual, .same, .notSame, .less, .greater,
    .lessEqual, .greaterEqual]

/-- The operator of a given spelling. -/
def BinaryOp.ofSymbol? (symbol : String) : Option BinaryOp :=
  BinaryOp.all.find? fun op => op.symbol = symbol

/-- Apply the operator of a given spelling. Under a spelling that no operator has, the operands are
still taken as numbers before it is refused. -/
def applySymbol (heap : Heap) (symbol : String) (a b : Value) : Except Failure Value :=
  match BinaryOp.ofSymbol? symbol with
  | some op => applyBinary heap op a b
  | none => do
    let _ ← a.numericOperand symbol
    let _ ← b.numericOperand symbol
    fault (.unknownOperator symbol)

/-- Apply an operator to one value. -/
def applyUnary (op : UnaryOp) (value : Value) : Except Failure Value :=
  match op with
  | .not => do return .bool (!(← value.truthy))
  | .negate => do return .double (-(← value.numericOperand op.symbol))
  | .plus => do return .double (← value.numericOperand op.symbol)

end Canvasflow.Program
