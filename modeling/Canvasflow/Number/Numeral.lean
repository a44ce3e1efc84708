import Canvasflow.Number.Double
import Canvasflow.Text.Blank
import Canvasflow.Text.Digit

/-!
# Numerals

How texts are read as numbers. A decimal numeral is a run of digits with at most one point, and an
optional exponent; its double is the nearest one, an infinity beyond the range. The generous forms
accept blanks around the numeral, a sign, and single underscores between two digits, and for doubles
also the words for infinity and for what is not a number. Digits of every script count.
-/

namespace Canvasflow.Numeral

open Canvasflow.Text

/-- The double nearest to `mantissa * 10 ^ exponent`. The cases of huge and tiny magnitude are
settled by the number of digits alone. -/
def nearest (mantissa : Nat) (exponent : Int) : Float :=
  let magnitude := ((Nat.toDigits 10 mantissa).length : Int) + exponent
  if mantissa = 0 ∨ magnitude < -330 then 0.0
  else if 310 < magnitude then Double.infinity
  else if exponent < 0 then Float.ofScientific mantissa true exponent.natAbs
  else Float.ofScientific mantissa false exponent.natAbs

/-- A decimal numeral taken apart. -/
structure Parts where
  whole : List Char
  fraction : List Char
  exponent : Int

/-- The double that a numeral writes. -/
def Parts.value (parts : Parts) : Float :=
  nearest (digitsValue (parts.whole ++ parts.fraction))
    (parts.exponent - (parts.fraction.length : Int))

/-- A sign in front of a numeral: whether it is a minus, and the rest. -/
def sign : List Char → Bool × List Char
  | '-' :: rest => (true, rest)
  | '+' :: rest => (false, rest)
  | chars => (false, chars)

/-- An exponent at the front: the letter, an optional sign and at least one digit; none is zero. -/
def exponent (chars : List Char) : Int × List Char :=
  match chars with
  | [] => (0, [])
  | letter :: rest =>
    if letter = 'e' ∨ letter = 'E' then
      let (negative, digits) := sign rest
      let run := digits.takeWhile isDigit
      if run.isEmpty then (0, chars)
      else
        let n : Int := digitsValue run
        (if negative then -n else n, digits.dropWhile isDigit)
    else (0, chars)

/-- The decimal numeral without a sign at the front of a text, and what follows it. -/
def parts? (chars : List Char) : Option (Parts × List Char) :=
  let whole := chars.takeWhile isDigit
  match whole.isEmpty, chars.dropWhile isDigit with
  | true, '.' :: rest =>
    let fraction := rest.takeWhile isDigit
    if fraction.isEmpty then none
    else
      let (power, after) := exponent (rest.dropWhile isDigit)
      some (⟨[], fraction, power⟩, after)
  | true, _ => none
  | false, '.' :: rest =>
    let (power, after) := exponent (rest.dropWhile isDigit)
    some (⟨whole, rest.takeWhile isDigit, power⟩, after)
  | false, rest =>
    let (power, after) := exponent rest
    some (⟨whole, [], power⟩, after)

/-- The double that a text is exactly a decimal numeral for, with an optional sign. -/
def decimal? (chars : List Char) : Option Float :=
  let (negative, unsigned) := sign chars
  match parts? unsigned with
  | some (parts, []) => some (Double.withSign negative parts.value)
  | _ => none

/-- Remove the single underscores that stand between two digits; nothing when another underscore
occurs. `before` tells whether the character before is a digit. -/
def dropUnderscores : Bool → List Char → Option (List Char)
  | _, [] => some []
  | before, '_' :: rest =>
    match rest with
    | [] => none
    | next :: _ => if before && isDigit next then dropUnderscores false rest else none
  | _, c :: rest => (dropUnderscores (isDigit c) rest).map (c :: ·)

/-- The longest run of digits that is read as an integer. -/
def digitLimit : Nat := 4300

/-- The integer that a text is read as: blanks around it, a sign, and underscores between digits are
allowed. -/
def int? (text : String) : Option Int := do
  let (negative, unsigned) := sign (trimChars text.toList)
  let digits ← dropUnderscores false unsigned
  if digits.isEmpty || !digits.all isDigit || digitLimit < digits.length then none
  else
    let n : Int := digitsValue digits
    some (if negative then -n else n)

/-- The double that a text is read as: blanks around it, a sign, underscores between digits, and the
words for infinity and for what is not a number are allowed. -/
def float? (text : String) : Option Float := do
  let (negative, unsigned) := sign (trimChars text.toList)
  let word := String.ofList (unsigned.map Char.toLower)
  if word = "inf" ∨ word = "infinity" then some (Double.withSign negative Double.infinity)
  else if word = "nan" then some Double.notANumber
  else
    match parts? (← dropUnderscores false unsigned) with
    | some (parts, []) => some (Double.withSign negative parts.value)
    | _ => none

/-- The value of a hexadecimal digit. -/
def hexDigit? (c : Char) : Option Nat :=
  let n := c.toNat
  if 0x30 ≤ n ∧ n ≤ 0x39 then some (n - 0x30)
  else if 0x41 ≤ n ∧ n ≤ 0x46 then some (n - 0x37)
  else if 0x61 ≤ n ∧ n ≤ 0x66 then some (n - 0x57)
  else none

/-- The number that a nonempty run of hexadecimal digits writes. -/
def hex? (chars : List Char) : Option Nat :=
  if chars.isEmpty then none
  else chars.foldl (fun acc c => do some (16 * (← acc) + (← hexDigit? c))) (some 0)

example : decimal? "1.5e-3".toList = some 0.0015 := by decide +kernel

example : int? " -1_000 " = some (-1000) := by decide +kernel

end Canvasflow.Numeral
