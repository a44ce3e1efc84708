import Canvasflow.Number.Shortest

/-!
# Written numbers

Two ways to write a double. The plain form has the fewest digits that read back, positional when
the first digit stands between the fourth place after the point and the sixteenth before it, else
with an exponent of at least two digits; a whole number keeps one zero after the point. The fixed
form has a given number of places, rounded on the exact value with a half to the even neighbour.
-/

namespace Canvasflow.Double

/-- The decimal digits of a natural number, most significant first. -/
def decimalDigits (n : Nat) : List Char :=
  Nat.toDigits 10 n

/-- Digits padded on the left with zeros to at least `width`. -/
def padZeros (width : Nat) (digits : List Char) : List Char :=
  List.replicate (width - digits.length) '0' ++ digits

/-- How a shortest decimal is laid out. -/
structure Layout where
  /-- The least power of ten of a first digit that is written positionally. -/
  lowestPlace : Int
  /-- The power of ten from which an exponent is written. -/
  exponentFrom : Int
  /-- The least number of digits of an exponent. -/
  exponentWidth : Nat

/-- Numbers are positional from 0.0001 up to 10 ^ 16, and exponents have two digits. -/
def plainLayout : Layout where
  lowestPlace := -4
  exponentFrom := 16
  exponentWidth := 2

/-- Write a positive decimal. -/
def Layout.write (layout : Layout) (decimal : Decimal) : List Char :=
  let digits := decimalDigits decimal.digits
  let place := decimal.exponent + (digits.length : Int) - 1
  if layout.lowestPlace ≤ place ∧ place < layout.exponentFrom then
    if 0 ≤ decimal.exponent then digits ++ List.replicate decimal.exponent.toNat '0' ++ ['.', '0']
    else
      let padded := padZeros ((-decimal.exponent).toNat + 1) digits
      let cut := padded.length - (-decimal.exponent).toNat
      padded.take cut ++ '.' :: padded.drop cut
  else
    let mantissa := match digits with
      | first :: second :: rest => first :: '.' :: second :: rest
      | short => short
    let exponent := padZeros layout.exponentWidth (decimalDigits place.natAbs)
    mantissa ++ 'e' :: (if place < 0 then '-' else '+') :: exponent

/-- The plain form of a double. -/
def plain (x : Float) : String :=
  match view x with
  | .notANumber => "nan"
  | .infinite negative => if negative then "-inf" else "inf"
  | .finite negative mantissa exponent =>
    let magnitude :=
      if mantissa = 0 then ['0', '.', '0'] else plainLayout.write (shortest mantissa exponent)
    String.ofList (if negative then '-' :: magnitude else magnitude)

/-- `numerator / denominator` rounded to a whole number, a half to the even one. -/
def divideRoundEven (numerator denominator : Nat) : Nat :=
  let quotient := numerator / denominator
  let rest := 2 * (numerator % denominator)
  if rest < denominator then quotient
  else if denominator < rest then quotient + 1
  else quotient + quotient % 2

/-- The form of a double with a fixed number of places after the point. -/
def fixedPlaces (x : Float) (places : Nat) : String :=
  match view x with
  | .notANumber => "nan"
  | .infinite negative => if negative then "-inf" else "inf"
  | .finite negative mantissa exponent =>
    let scaled := divideRoundEven (mantissa * Nat.pow 2 exponent.toNat * Nat.pow 10 places)
      (Nat.pow 2 (-exponent).toNat)
    let digits := padZeros (places + 1) (decimalDigits scaled)
    let cut := digits.length - places
    let point := if places = 0 then [] else ['.']
    let magnitude := digits.take cut ++ point ++ digits.drop cut
    String.ofList (if negative then '-' :: magnitude else magnitude)

example : plain 0.1 = "0.1" := by decide +kernel

example : plain 1e16 = "1e+16" := by decide +kernel

example : plain 1e15 = "1000000000000000.0" := by decide +kernel

example : fixedPlaces 0.125 2 = "0.12" := by decide +kernel

example : fixedPlaces (-0.001) 2 = "-0.00" := by decide +kernel

end Canvasflow.Double
