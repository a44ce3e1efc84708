import Canvasflow.Number.Double

/-!
# The shortest decimal that reads back

Among the decimals that round to a given double, the shortest is written, and of the shortest ones
the nearest. A double rounds to itself from an interval whose half widths are half the gaps to its
neighbours, ends included when its mantissa is even. On the grid of decimals with `n` digits only
the two points next to the double have to be tried: if any point of the grid lies in the interval,
one of these does. The first `n` from 1 to 17 with a hit wins.
-/

namespace Canvasflow.Double

/-- A positive decimal: `digits * 10 ^ exponent`. -/
structure Decimal where
  digits : Nat
  exponent : Int
  deriving DecidableEq, Repr

/-- Compare `a * 2 ^ e` with `d * 10 ^ k`. -/
def compareScaled (a : Nat) (e : Int) (d : Nat) (k : Int) : Ordering :=
  compare (a * Nat.pow 2 e.toNat * Nat.pow 10 (-k).toNat)
    (d * Nat.pow 10 k.toNat * Nat.pow 2 (-e).toNat)

/-- The exponent `k` with `10 ^ k ≤ m * 2 ^ e < 10 ^ (k + 1)`, for a positive `m`. -/
def decimalPlace (m : Nat) (e : Int) : Int :=
  let guess := ((m.log2 : Int) + e) * 30103 / 100000
  if compareScaled m e 1 (guess + 1) != .lt then guess + 1
  else if compareScaled m e 1 guess == .lt then guess - 1
  else guess

/-- The interval of numbers that round to a double, in quarters of its last place. -/
structure Neighbourhood where
  low : Nat
  middle : Nat
  high : Nat
  exponent : Int
  closed : Bool

/-- The interval around `m * 2 ^ e`; below a power of two the gap is half as wide. -/
def neighbourhood (m : Nat) (e : Int) : Neighbourhood where
  low := 4 * m - (if m = Nat.pow 2 52 ∧ -1074 < e then 1 else 2)
  middle := 4 * m
  high := 4 * m + 2
  exponent := e - 2
  closed := m % 2 == 0

/-- Whether `d * 10 ^ k` lies in the interval. -/
def Neighbourhood.contains (box : Neighbourhood) (d : Nat) (k : Int) : Bool :=
  let low := compareScaled box.low box.exponent d k
  let high := compareScaled box.high box.exponent d k
  (low == .lt || (box.closed && low == .eq)) && (high == .gt || (box.closed && high == .eq))

/-- Whether `d * 10 ^ k` is the nearer of `d` and `d + 1` times `10 ^ k`; of two equally near ones
the even one is taken. -/
def Neighbourhood.prefersLower (box : Neighbourhood) (d : Nat) (k : Int) : Bool :=
  match compareScaled (2 * box.middle) box.exponent (2 * d + 1) k with
  | .lt => true
  | .eq => d % 2 == 0
  | .gt => false

/-- The point of the grid of step `10 ^ k` that rounds to the double, if there is one. -/
def Neighbourhood.hit? (box : Neighbourhood) (k : Int) : Option Nat :=
  let d := box.middle * Nat.pow 2 box.exponent.toNat * Nat.pow 10 (-k).toNat /
    (Nat.pow 10 k.toNat * Nat.pow 2 (-box.exponent).toNat)
  match box.contains d k && d != 0, box.contains (d + 1) k with
  | true, true => some (if box.prefersLower d k then d else d + 1)
  | true, false => some d
  | false, true => some (d + 1)
  | false, false => none

/-- Move the final zeros of the digits, at most `steps` of them, into the exponent. -/
def Decimal.stripZeros : Nat → Decimal → Decimal
  | 0, decimal => decimal
  | steps + 1, decimal =>
    if decimal.digits % 10 = 0 then stripZeros steps ⟨decimal.digits / 10, decimal.exponent + 1⟩
    else decimal

/-- The shortest decimal that rounds to `m * 2 ^ e`, for a positive `m`. -/
def shortest (m : Nat) (e : Int) : Decimal :=
  let box := neighbourhood m e
  let place := decimalPlace m e
  let found := (List.range 17).findSome? fun (count : Nat) =>
    let k := place - (count : Int)
    (box.hit? k).map fun d => (⟨d, k⟩ : Decimal)
  (found.getD ⟨m, 0⟩).stripZeros 20

example : shortest 0x1999999999999A (-56) = ⟨1, -1⟩ := by decide +kernel

example : shortest 1 (-1074) = ⟨5, -324⟩ := by decide +kernel

end Canvasflow.Double
