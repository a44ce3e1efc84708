import Canvasflow.Number.Numeral
import Canvasflow.Number.Written

/-!
# Numbers

Integers of any size and doubles, kept apart: files and lengths give integers, arithmetic gives
doubles. `Number.same` compares the two kinds exactly, and `Number.written` is the text that
programs see, in which a whole double below 10 ^ 21 is written like the integer.
-/

namespace Canvasflow

/-- An integer of any size or a double. -/
inductive Number where
  | int (value : Int)
  | double (value : Float)
  deriving Inhabited

namespace Number

/-- The nearest double, or nothing for an integer beyond the range of doubles. -/
def toFloat? : Number → Option Float
  | int value => Double.ofInt? value
  | double value => some value

/-- Whether the number is zero. -/
def isZero : Number → Bool
  | int value => value == 0
  | double value => value == 0.0

/-- Whether two numbers are the same number; what is not a number is not the same as anything. -/
def same : Number → Number → Bool
  | int a, int b => a == b
  | double a, double b => a == b
  | int a, double b => Double.equalsInt b a
  | double a, int b => Double.equalsInt a b

/-- The number as an integer, if it is whole. -/
def whole? : Number → Option Int
  | int value => some value
  | double value => if Double.isWhole value then Double.truncate? value else none

/-- The greatest integer that a double in the settled form may have. -/
def settledLimit : Nat := Nat.pow 2 53 - 1

/-- The settled form: a whole double of at most that magnitude becomes the integer. -/
def settle : Number → Number
  | int value => int value
  | double value => match whole? (double value) with
    | some n => if n.natAbs ≤ settledLimit then int n else double value
    | none => double value

/-- The decimal text of an integer, if it has no more digits than are written. -/
def intText? (n : Int) : Option String :=
  if n.natAbs < Nat.pow 2 14000 then some (toString n)
  else
    let text := toString n
    if (toString n.natAbs).length ≤ Numeral.digitLimit then some text else none

/-- The text of a double for programs: whole numbers below 10 ^ 21 without a point, others in the
plain form, and words for the rest. -/
def doubleText (x : Float) : String :=
  match Double.view x with
  | .notANumber => "NaN"
  | .infinite negative => if negative then "-Infinity" else "Infinity"
  | .finite .. => match whole? (double x) with
    | some n => if n.natAbs < Nat.pow 10 21 then toString n else Double.plain x
    | none => Double.plain x

/-- The text of a number for programs, or nothing for an integer with too many digits. -/
def written? : Number → Option String
  | int value => intText? value
  | double value => some (doubleText value)

/-- A number in messages: doubles keep their point. -/
def shown : Number → String
  | int value => toString value
  | double value => Double.plain value

end Number

end Canvasflow
