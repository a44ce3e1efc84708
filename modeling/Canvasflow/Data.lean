import Canvasflow.Entries
import Canvasflow.Number
import Canvasflow.Text.Quoted

/-!
# Plain data

The values that documents, files and settings hold: finite trees of null, truth values, numbers,
texts, lists and records. `Data.same` compares two values, `Data.shown` writes a value into a
message, and `Data.toFloat` says which values stand for a double.
-/

namespace Canvasflow

/-- A finite tree of plain values. Records keep the order of their keys. -/
inductive Data where
  | null
  | bool (value : Bool)
  | num (value : Number)
  | str (value : String)
  | list (items : List Data)
  | record (fields : List (String × Data))
  deriving Inhabited

namespace Data

/-- The name of a value's type in messages. -/
def typeName : Data → String
  | null => "NoneType"
  | bool _ => "bool"
  | num (.int _) => "int"
  | num (.double _) => "float"
  | str _ => "str"
  | list _ => "list"
  | record _ => "dict"

/-- Whether the value counts as absent: null, false, zero, or empty. -/
def isBlank : Data → Bool
  | null => true
  | bool value => !value
  | num value => value.isZero
  | str value => value.isEmpty
  | list items => items.isEmpty
  | record fields => fields.isEmpty

/-- An integer as a value. -/
def int (value : Int) : Data :=
  num (.int value)

/-- A double as a value. -/
def double (value : Float) : Data :=
  num (.double value)

/-- The text, if the value is one. -/
def text? : Data → Option String
  | str value => some value
  | _ => none

/-- The fields, if the value is a record. -/
def fields? : Data → Option (Entries Data)
  | record fields => some fields
  | _ => none

/-- The value of a field, if the value is a record that has it. -/
def field? (key : String) (data : Data) : Option Data :=
  data.fields?.bind (Entries.find? key)

mutual

/-- Whether two values are the same: numbers by what they stand for, and records by their fields in
any order. What is not a number is not the same as anything. -/
def same : Data → Data → Bool
  | null, null => true
  | bool a, bool b => a == b
  | num a, num b => a.same b
  | str a, str b => a == b
  | list a, list b => sameItems a b
  | record a, record b => a.length == b.length && sameFields a b
  | _, _ => false

/-- Whether two lists have the same items. -/
def sameItems : List Data → List Data → Bool
  | [], [] => true
  | a :: rest, b :: others => same a b && sameItems rest others
  | _, _ => false

/-- Whether each field is the same as the field of that key in a record. -/
def sameFields : List (String × Data) → Entries Data → Bool
  | [], _ => true
  | (key, value) :: rest, fields =>
    (match Entries.find? key fields with
      | some other => same value other
      | none => false) && sameFields rest fields

end

/-- A truth value in messages. -/
def boolShown (value : Bool) : String :=
  if value then "True" else "False"

mutual

/-- A value as it stands inside a list or record of a message: texts are quoted. -/
def quotedForm : Data → String
  | null => "None"
  | bool value => boolShown value
  | num value => value.shown
  | str value => Text.quoted value
  | list items => "[" ++ String.intercalate ", " (quotedItems items) ++ "]"
  | record fields => "\x7b" ++ String.intercalate ", " (quotedFields fields) ++ "\x7d"

/-- The items of a list in a message. -/
def quotedItems : List Data → List String
  | [] => []
  | item :: rest => quotedForm item :: quotedItems rest

/-- The fields of a record in a message. -/
def quotedFields : List (String × Data) → List String
  | [] => []
  | (key, value) :: rest => (Text.quoted key ++ ": " ++ quotedForm value) :: quotedFields rest

end

/-- A value in a message: a text stands as itself, everything else as inside a list. -/
def shown : Data → String
  | str value => value
  | other => quotedForm other

/-- Why a value is not a number. -/
inductive NumberFault where
  | wrongType
  | malformed
  | tooLarge
  deriving DecidableEq, Repr

/-- The double that a value stands for: truth values are zero and one, and texts are read as
numerals. -/
def toFloat : Data → Except NumberFault Float
  | bool value => .ok (if value then 1.0 else 0.0)
  | num value => match value.toFloat? with
    | some x => .ok x
    | none => .error .tooLarge
  | str value => match Numeral.float? value with
    | some x => .ok x
    | none => .error .malformed
  | null | list _ | record _ => .error .wrongType

end Data

end Canvasflow
