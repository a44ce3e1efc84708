import Canvasflow.Program.Fault
import Canvasflow.Program.Value

/-!
# Conversions between values

What counts as true, the text and the number of a value, and the two equalities. The text of a list
is the texts of its items with commas between them, so it descends into lists in lists; the descent
has a limited room, which a list that contains itself exhausts. Texts and lists have a length
limit, and `joinTexts` never builds a longer text.
-/

namespace Canvasflow.Program

/-- The greatest length of a text or list that a program may build. -/
def maxLength : Nat := Nat.pow 2 20

/-- The depth to which lists are written inside lists. -/
def textRoom : Nat := 400

/-- Refuse a length above the limit. -/
def checkLength (length : Nat) (kind : String) : Except Failure Unit :=
  if maxLength < length then fault (.invalidLength kind length) else .ok ()

namespace Value

/-- The type of a value, as programs call it. -/
def type : Value → String
  | null => "null"
  | bool _ => "boolean"
  | num _ => "number"
  | str _ => "string"
  | list _ => "array"
  | record _ => "object"
  | native _ => "function"
  | space _ => "object"

/-- The type of a value, as the host calls it. -/
def hostType : Value → String
  | null => "NoneType"
  | bool _ => "bool"
  | num (.int _) => "int"
  | num (.double _) => "float"
  | str _ => "str"
  | list _ => "list"
  | record _ => "dict"
  | native _ => "NativeFunction"
  | space _ => "Namespace"

/-- What an equality tells apart first: the type, with lists, functions and records as one. -/
inductive Category where
  | null
  | boolean
  | number
  | string
  | object
  deriving DecidableEq, Repr

/-- The category of a value. -/
def category : Value → Category
  | null => .null
  | bool _ => .boolean
  | num _ => .number
  | str _ => .string
  | list _ | record _ | native _ | space _ => .object

/-- Whether the value is a number. -/
def isNumber : Value → Bool
  | num _ => true
  | _ => false

/-- Whether a value counts as true. -/
def truthy : Value → Except Failure Bool
  | null => .ok false
  | bool value => .ok value
  | num (.double value) => .ok (!(value == 0.0) && !value.isNaN)
  | num (.int value) =>
    if value = 0 then .ok false
    else if (Double.ofInt? value).isSome then .ok true
    else .error .overflow
  | str value => .ok (!value.isEmpty)
  | list _ | record _ | native _ | space _ => .ok true

/-- Join the texts of some values, given how a value other than null is written, to the pieces so
far (last first) of the given total length. -/
def joinOnto (text : Value → Except Failure String) (separator : String) :
    List String → Nat → List Value → Except Failure (List String)
  | pieces, _, [] => .ok pieces
  | pieces, total, item :: rest => do
    let piece ← match item with
      | null => .ok ""
      | other => text other
    let gap := if pieces.isEmpty then 0 else separator.length
    let length := total + piece.length + gap
    checkLength length "string"
    joinOnto text separator (piece :: pieces) length rest

/-- Join the texts of some values; null is written as nothing. -/
def joinTexts (text : Value → Except Failure String) (separator : String) (items : List Value) :
    Except Failure String := do
  let pieces ← joinOnto text separator [] 0 items
  return String.intercalate separator pieces.reverse

/-- The text of a value, with lists written to a limited depth. -/
def textWithin (heap : Heap) : Nat → Value → Except Failure String
  | _, null => .ok "null"
  | _, bool value => .ok (if value then "true" else "false")
  | _, num value => match value.written? with
    | some text => .ok text
    | none => .error .badValue
  | _, str value => .ok value
  | 0, list _ => .error .tooDeep
  | room + 1, list place => joinTexts (textWithin heap room) "," (heap.items place).toList
  | _, record _ => .ok "[object Object]"
  | _, native _ => .ok "[function]"
  | _, space _ => .ok "[object]"

/-- The text of a value. -/
def text (heap : Heap) (value : Value) : Except Failure String :=
  textWithin heap textRoom value

/-- The number that a text stands for: a decimal or hexadecimal numeral or an infinity, with blanks
around it; nothing is zero, and any other text is not a number. -/
def textNumber (text : String) : Float :=
  let chars := Text.trimChars text.toList
  let trimmed := String.ofList chars
  if chars.isEmpty then 0.0
  else if trimmed = "Infinity" ∨ trimmed = "+Infinity" then Double.infinity
  else if trimmed = "-Infinity" then -Double.infinity
  else
    let hex := match chars with
      | '0' :: x :: digits => if x = 'x' ∨ x = 'X' then Numeral.hex? digits else none
      | _ => none
    match hex with
    | some n => (Double.ofInt? n).getD Double.infinity
    | none => (Numeral.decimal? chars).getD Double.notANumber

/-- The double that a value stands for. -/
def toNumber : Value → Except Failure Float
  | null => .ok 0.0
  | bool value => .ok (if value then 1.0 else 0.0)
  | num value => match value.toFloat? with
    | some x => .ok x
    | none => .error .overflow
  | str value => .ok (textNumber value)
  | list _ | record _ | native _ | space _ => .ok Double.notANumber

/-- The double that an operand of an operator stands for; null and objects are refused. -/
def numericOperand (op : String) : Value → Except Failure Float
  | null => fault (.cannotApply op "null")
  | list place => fault (.cannotApply op (list place).type)
  | record place => fault (.cannotApply op (record place).type)
  | native fn => fault (.cannotApply op (native fn).type)
  | space members => fault (.cannotApply op (space members).type)
  | bool value => (bool value).toNumber
  | num value => (num value).toNumber
  | str value => (str value).toNumber

/-- Whether two values are the same: numbers by what they stand for, texts by their characters, and
objects by identity. -/
def same : Value → Value → Bool
  | null, null => true
  | bool a, bool b => a == b
  | num a, num b => a.same b
  | str a, str b => a == b
  | list a, list b => a == b
  | record a, record b => a == b
  | native a, native b => a.same b
  | space a, space b => a == b
  | _, _ => false

/-- Whether two values are equal when primitive values of different types are compared as numbers.
-/
def looseSame (a b : Value) : Except Failure Bool :=
  if a.category = b.category then .ok (a.same b)
  else match a.category, b.category with
    | .null, _ | _, .null | .object, _ | _, .object => .ok false
    | _, _ => do return (← a.toNumber) == (← b.toNumber)

end Value

end Canvasflow.Program
