import Canvasflow.Page.Shape
import Canvasflow.Program.Convert

/-!
# Snapshots

Programs see a shape as one record: its identity, its place and rotation, its properties under
their own names, and its metadata under `m`. A record is read back as a patch of what it names.
Coordinates become finite doubles, a text becomes a text, and everything else has to be plain data,
which is copied; whole doubles become integers again. Nothing that a program still holds ends up in
a patch.
-/

namespace Canvasflow.Program

open Canvasflow.Page

/-- The keys of a snapshot that are not properties. -/
def reservedKeys : List String := ["id", "type", "x", "y", "rotation", "m"]

/-- The snapshot of a shape. -/
def pack (shape : Shape) : Data :=
  .record ([("id", .str shape.id), ("type", .str shape.type), ("x", .double shape.x),
    ("y", .double shape.y), ("rotation", .double shape.rotation)] ++
    shape.props.filter (fun field => !reservedKeys.contains field.1) ++
    [("m", .record shape.metadata)])

/-- The depth to which values are copied. -/
def copyRoom : Nat := 400

/-- Copy a value as plain data, to a limited depth. A function or a namespace is refused in the
name of `key`. -/
def plainWithin (heap : Heap) (key : String) : Nat → Value → Except Failure Data
  | _, .null => .ok .null
  | _, .bool value => .ok (.bool value)
  | _, .num value => .ok (.num value.settle)
  | _, .str value => .ok (.str value)
  | 0, .list _ | 0, .record _ => .error .tooDeep
  | room + 1, .list place => do
    return .list (← (heap.items place).toList.mapM (plainWithin heap key room))
  | room + 1, .record place => do
    return .record (← (heap.fields place).mapM fun field => do
      return (field.1, ← plainWithin heap key room field.2))
  | _, .native fn => fault (.notPlain key ("NativeFunction(" ++ fn.name ++ ")"))
  | _, .space space => fault (.notPlain key ("Namespace(" ++ space.name ++ ")"))

/-- Read a coordinate: a finite number, or something that converts to one. -/
def coordinate (heap : Heap) (key : String) (value : Value) : Except Failure Float := do
  let number ← match value with
    | .str _ | .bool _ | .num _ => value.toNumber
    | _ => .ok Double.notANumber
  if number.isFinite then return number
  else fault (.notFinite key (← value.text heap))

/-- The value of a field, if it is there and not null. -/
def present? (key : String) (fields : Entries Value) : Option Value :=
  match Entries.find? key fields with
  | none | some .null => none
  | some value => some value

/-- Read an optional coordinate. -/
def coordinate? (heap : Heap) (key : String) (fields : Entries Value) :
    Except Failure (Option Data) :=
  match present? key fields with
  | none => .ok none
  | some value => do return some (.double (← coordinate heap key value))

/-- Read the properties: every field that is not reserved, with the text as a text. Values are
copied to a limited depth. -/
def properties (room : Nat) (heap : Heap) (fields : Entries Value) :
    Except Failure (Entries Data) := do
  let props ← (fields.filter fun field => !reservedKeys.contains field.1).mapM fun field => do
    return (field.1, ← plainWithin heap field.1 room field.2)
  match present? "text" fields with
  | none => return props
  | some value => return Entries.set "text" (.str (← value.text heap)) props

/-- Read the identity, which has to be a text that is not empty. -/
def identity (fields : Entries Value) : Except Failure String :=
  match Entries.find? "id" fields with
  | some (.str id) => if id.isEmpty then fault .noId else .ok id
  | _ => fault .noId

/-- Read the type, if there is one. -/
def typeName? (heap : Heap) (fields : Entries Value) : Except Failure (Option String) :=
  match present? "type" fields with
  | none => .ok none
  | some value => do return some (← value.text heap)

/-- Read the metadata, if there are any; they have to be a record, which is copied to a limited
depth. -/
def metadata? (room : Nat) (heap : Heap) (fields : Entries Value) :
    Except Failure (Option Data) :=
  match present? "m" fields with
  | none => .ok none
  | some (.record place) => do return some (← plainWithin heap "m" room (.record place))
  | some _ => fault .metaNotRecord

/-- Read the fields of a snapshot back as a patch, whose values are copied to a limited depth. -/
def unpackFieldsWithin (room : Nat) (heap : Heap) (fields : Entries Value) :
    Except Failure Patch := do
  let id ← identity fields
  let type ← typeName? heap fields
  let x ← coordinate? heap "x" fields
  let y ← coordinate? heap "y" fields
  let rotation ← coordinate? heap "rotation" fields
  let props ← properties room heap fields
  let metadata ← metadata? room heap fields
  let named := if props.isEmpty then none else some (Data.record props)
  return ⟨id, type, x, y, rotation, named, metadata⟩

/-- Read the fields of a snapshot back as a patch. -/
def unpackFields (heap : Heap) (fields : Entries Value) : Except Failure Patch :=
  unpackFieldsWithin copyRoom heap fields

/-- Read a value back as a patch; it has to be a record. -/
def unpackWithin (room : Nat) (heap : Heap) (value : Value) : Except Failure Patch :=
  match value with
  | .record place => unpackFieldsWithin room heap (heap.fields place)
  | other => fault (.notShapeRecord other.hostType)

/-- Read a value back as a patch; it has to be a record. -/
def unpack (heap : Heap) (value : Value) : Except Failure Patch :=
  unpackWithin copyRoom heap value

end Canvasflow.Program
