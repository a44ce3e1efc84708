/-!
# Doubles as exact numbers

A finite double is a mantissa times a power of two. This module reads a double into that form and
builds the double nearest to such a product, and on these two it defines the whole part, the exact
comparison of an integer with a double, and the remainder of a division that truncates. Nothing here
rounds except `ofDyadic`, which takes ties to the even neighbour.
-/

namespace Canvasflow.Double

/-- What a double stands for. -/
inductive View where
  | notANumber
  | infinite (negative : Bool)
  | finite (negative : Bool) (mantissa : Nat) (exponent : Int)
  deriving DecidableEq, Repr

/-- Read a double: the mantissa has at most 53 bits and the exponent is at least -1074. -/
def view (x : Float) : View :=
  let bits := x.toBits.toNat
  let negative := bits / Nat.pow 2 63 == 1
  let field : Nat := bits / Nat.pow 2 52 % Nat.pow 2 11
  let fraction : Nat := bits % Nat.pow 2 52
  if field = 2047 then
    if fraction = 0 then .infinite negative else .notANumber
  else if field = 0 then .finite negative fraction (-1074)
  else .finite negative (fraction + Nat.pow 2 52) ((field : Int) - 1075)

/-- The number of bits of a natural number. -/
def bitLength (n : Nat) : Nat :=
  if n = 0 then 0 else n.log2 + 1

/-- `n / 2 ^ shift` rounded to a whole number, a tie to the even one. -/
def shiftRoundEven (n shift : Nat) : Nat :=
  let quotient := n / Nat.pow 2 shift
  let rest := n % Nat.pow 2 shift
  let half := Nat.pow 2 shift / 2
  if shift = 0 ∨ rest < half then quotient
  else if half < rest then quotient + 1
  else quotient + quotient % 2

/-- Set the sign of a double that has none. -/
def withSign (negative : Bool) (magnitude : Float) : Float :=
  if negative then -magnitude else magnitude

/-- The positive infinity. -/
def infinity : Float := Float.ofBits 0x7FF0000000000000

/-- The value that is not a number. -/
def notANumber : Float := Float.ofBits 0x7FF8000000000000

/-- The double nearest to `mantissa * 2 ^ exponent`, a tie to the even mantissa. -/
def ofDyadic (negative : Bool) (mantissa : Nat) (exponent : Int) : Float :=
  let lowest := max (exponent + (bitLength mantissa : Int) - 53) (-1074)
  let rounded :=
    if exponent ≤ lowest then shiftRoundEven mantissa (lowest - exponent).toNat
    else mantissa * Nat.pow 2 (exponent - lowest).toNat
  let carried := decide (Nat.pow 2 53 ≤ rounded)
  let significand := if carried then rounded / 2 else rounded
  let place := if carried then lowest + 1 else lowest
  if significand < Nat.pow 2 52 then withSign negative (Float.ofBits significand.toUInt64)
  else if 971 < place then withSign negative infinity
  else
    withSign negative
      (Float.ofBits ((place + 1075).toNat * Nat.pow 2 52 + (significand - Nat.pow 2 52)).toUInt64)

/-- The double nearest to an integer, or nothing when the integer is too large for any. -/
def ofInt? (n : Int) : Option Float :=
  let x := if n.natAbs < Nat.pow 2 53 then Float.ofInt n else ofDyadic (decide (n < 0)) n.natAbs 0
  if x.isFinite then some x else none

/-- The integer next to a finite double in the direction of zero. -/
def truncate? (x : Float) : Option Int :=
  match view x with
  | .finite negative mantissa exponent =>
    let whole : Nat :=
      if 0 ≤ exponent then mantissa * Nat.pow 2 exponent.toNat else mantissa / Nat.pow 2 (-exponent).toNat
    some (if negative then -(whole : Int) else whole)
  | _ => none

/-- Whether a double is a whole number. -/
def isWhole (x : Float) : Bool :=
  match view x with
  | .finite _ mantissa exponent => 0 ≤ exponent || mantissa % Nat.pow 2 (-exponent).toNat == 0
  | _ => false

/-- The greatest integer not above a finite double. -/
def floor? (x : Float) : Option Int :=
  (truncate? x).map fun whole => if isWhole x || 0 ≤ x then whole else whole - 1

/-- The least integer not below a finite double. -/
def ceil? (x : Float) : Option Int :=
  (truncate? x).map fun whole => if isWhole x || x < 0 then whole else whole + 1

/-- Whether an integer and a double are the same number. -/
def equalsInt (x : Float) (n : Int) : Bool :=
  isWhole x && truncate? x == some n

/-- The remainder of `a / b` with the sign of `a`, exact, for a finite `a` and a finite `b` that is
not zero. -/
def remainder (a b : Float) : Float :=
  match view a, view b with
  | .finite negative ma ea, .finite _ mb eb =>
    let common := min ea eb
    let dividend := ma * Nat.pow 2 (ea - common).toNat
    let divisor := mb * Nat.pow 2 (eb - common).toNat
    ofDyadic negative (dividend % divisor) common
  | _, _ => notANumber

/-- The whole part of the square root of `n`, read off bit by bit below `2 ^ bits`, over the part
`root` that is settled. -/
def squareRootBits (n : Nat) : Nat → Nat → Nat
  | 0, root => root
  | bits + 1, root =>
    let candidate := root + Nat.pow 2 bits
    squareRootBits n bits (if candidate * candidate ≤ n then candidate else root)

/-- The whole part of the square root. -/
def squareRoot (n : Nat) : Nat :=
  squareRootBits n (bitLength n / 2 + 1) 0

/-- The double nearest to the square root of `n * 2 ^ (2 * exponent)`. -/
def ofSquare (n : Nat) (exponent : Int) : Float :=
  let extra := 60 - bitLength n / 2
  let scaled := n * Nat.pow 4 extra
  let root := squareRoot scaled
  let rest := if root * root = scaled then 0 else 1
  ofDyadic false (2 * root + rest) (exponent - extra - 1)

/-- The length of a vector: infinite when a coordinate is, else not a number when a coordinate is
not, else the double nearest to the square root of the sum of squares. -/
def hypotenuse (coordinates : List Float) : Float :=
  if coordinates.any Float.isInf then infinity
  else if coordinates.any Float.isNaN then notANumber
  else
    let parts := coordinates.filterMap fun x => match view x with
      | .finite _ mantissa exponent => some (mantissa, exponent)
      | _ => none
    let common := parts.foldl (fun acc part => min acc part.2) 971
    let total := parts.foldl (fun acc part =>
      let scaled := part.1 * Nat.pow 2 (part.2 - common).toNat
      acc + scaled * scaled) 0
    ofSquare total common

example : ofDyadic false 1 0 = 1.0 := by decide +kernel

example : hypotenuse [3, -4] = 5.0 := by decide +kernel

example : remainder (-5.5) 2 = -1.5 := by decide +kernel

end Canvasflow.Double
