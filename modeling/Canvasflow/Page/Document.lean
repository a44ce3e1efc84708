import Canvasflow.Geometry.Box
import Canvasflow.Page.Fault
import Canvasflow.Page.Shape

/-!
# Documents

A page of shapes from bottom to top, the bindings between them, the markers of its connectors, and
what is visible and pointed at. Every change here is a single one and is checked in full before
anything is stored, so a document that refuses a change is the document it was; only the count of
identities that were given out may have grown. `Document.create`, `Document.update` and
`Document.bind` are those changes, and removing a shape or a binding is the fourth.
-/

namespace Canvasflow.Page

open Canvasflow.Geometry

/-- The outcome of the last run of a connector. -/
inductive Marker where
  | ok
  | error
  deriving DecidableEq, Repr

/-- The name of a marker. -/
def Marker.name : Marker → String
  | ok => "ok"
  | error => "error"

/-- The marker of a given name. -/
def Marker.ofName? (name : String) : Option Marker :=
  if name = "ok" then some .ok else if name = "error" then some .error else none

/-- The type of connectors, and their colours after a run that succeeded and after one that failed.
-/
structure Style where
  connectorType : String
  okColor : String
  errorColor : String
  deriving DecidableEq, Repr, Inhabited

/-- The colour that goes with a marker. -/
def Style.color (style : Style) : Marker → String
  | .ok => style.okColor
  | .error => style.errorColor

/-- A page. Shapes and bindings are stored under their identities. -/
structure Document where
  style : Style
  shapes : Entries Shape
  bindings : Entries Binding
  markers : Entries Marker
  viewport? : Option (Box Float)
  pointer : Point Float
  issued : Nat
  deriving Inhabited

/-- A shape that is to be created. Its coordinates are checked then; without an identity it gets a
new one. -/
structure NewShape where
  type : String
  x : Data := .double 0
  y : Data := .double 0
  rotation : Data := .double 0
  parent : Data := .null
  props : Entries Data := []
  metadata : Entries Data := []
  id : String := ""

namespace Document

/-- The page without anything on it. -/
def empty (style : Style) : Document :=
  ⟨style, [], [], [], none, ⟨0, 0⟩, 0⟩

/-- The shape of an identity. -/
def shape? (document : Document) (id : String) : Option Shape :=
  Entries.find? id document.shapes

/-- The shapes from bottom to top. -/
def pageShapes (document : Document) : List Shape :=
  document.shapes.values

/-- The bindings in the order in which they were made. -/
def pageBindings (document : Document) : List Binding :=
  document.bindings.values

/-- The marker of a connector. -/
def marker? (document : Document) (id : String) : Option Marker :=
  Entries.find? id document.markers

/-- The identities of the shapes inside another shape, from bottom to top. -/
def children (document : Document) (parent : String) : List String :=
  (document.pageShapes.filter fun shape => shape.parent? = some parent).map Shape.id

/-- A number in twelve digits or more. -/
def serial (n : Nat) : String :=
  let digits := toString n
  "".pushn '0' (12 - digits.length) ++ digits

/-- The identity given, or a new one of the given kind when it is empty. -/
def identify (document : Document) (kind id : String) : String × Document :=
  if id.isEmpty then
    (kind ++ ":" ++ serial (document.issued + 1), { document with issued := document.issued + 1 })
  else (id, document)

/-- A coordinate, which has to be a finite number. -/
def finite (name : String) (value : Data) : Except PageFault Float :=
  match value with
  | .num number => match number.toFloat? with
    | none => .error .tooLarge
    | some x => if x.isFinite then .ok x else .error (.notFinite name value.shown)
  | other => .error (.notNumber name other.typeName)

/-- The parent of a new shape, which has to be on the page. -/
def checkParent (document : Document) (parent : Data) : Except PageFault (Option String) :=
  match parent with
  | .null => .ok none
  | .str id =>
    if Entries.has id document.shapes then .ok (some id) else .error (.parentNotFound id)
  | .list _ | .record _ => .error .parentNotName
  | .bool _ | .num _ => .error (.parentNotFound parent.shown)

/-- Check that no shape has an identity. -/
def checkFree (document : Document) (id : String) : Except PageFault Unit :=
  if Entries.has id document.shapes then .error (.shapeExists id) else .ok ()

/-- The new shape under an identity, if the document can take it. -/
def accept (document : Document) (new : NewShape) (id : String) : Except PageFault Shape := do
  document.checkFree id
  let parent? ← checkParent document new.parent
  let x ← finite "x" new.x
  let y ← finite "y" new.y
  let rotation ← finite "rotation" new.rotation
  return ⟨id, new.type, x, y, rotation, parent?, new.props, new.metadata⟩

/-- Store a shape under its identity. -/
def put (document : Document) (shape : Shape) : Document :=
  { document with shapes := Entries.set shape.id shape document.shapes }

/-- Create a shape on top of the page. -/
def create (document : Document) (new : NewShape) : Except PageFault Shape × Document :=
  let (id, counted) := document.identify "shape" new.id
  match counted.accept new id with
  | .ok shape => (.ok shape, counted.put shape)
  | .error fault => (.error fault, counted)

/-- A coordinate of a shape after a patch. -/
def patchedNumber (name : String) (value? : Option Data) (current : Float) : Except PageFault Float :=
  match value? with
  | none => .ok current
  | some value => finite name value

/-- The properties or the metadata of a shape after a patch. -/
def patchedFields (name : String) (value? : Option Data) (current : Entries Data) :
    Except PageFault (Entries Data) :=
  match value? with
  | none => .ok current
  | some (.record fields) => .ok (Entries.merge current fields)
  | some _ => .error (.notRecord name)

/-- Check that a patch does not change the type of a shape. -/
def checkType (shape : Shape) (patch : Patch) : Except PageFault Unit :=
  match patch.type? with
  | some type =>
    if type = shape.type then .ok () else .error (.typeChange shape.id shape.type type)
  | none => .ok ()

/-- A shape after a patch. -/
def patched (shape : Shape) (patch : Patch) : Except PageFault Shape := do
  checkType shape patch
  let x ← patchedNumber "x" patch.x? shape.x
  let y ← patchedNumber "y" patch.y? shape.y
  let rotation ← patchedNumber "rotation" patch.rotation? shape.rotation
  let props ← patchedFields "props" patch.props? shape.props
  let metadata ← patchedFields "meta" patch.metadata? shape.metadata
  return { shape with
    x := x, y := y, rotation := rotation, props := props, metadata := metadata }

/-- Apply a patch to the shape that it names. -/
def update (document : Document) (patch : Patch) : Except PageFault (Shape × Document) :=
  match document.shape? patch.id with
  | none => .error (.shapeNotFound patch.id)
  | some shape => do
    let changed ← patched shape patch
    return (changed, { document with shapes := Entries.set patch.id changed document.shapes })

/-- Take a shape and its marker off the page. -/
def remove (document : Document) (id : String) : Document :=
  { document with
    shapes := Entries.erase id document.shapes
    markers := Entries.erase id document.markers }

/-- Check that a new binding is owned by a connector. -/
def checkOwner (document : Document) (connector : String) : Except PageFault Unit :=
  match document.shape? connector with
  | none => .error (.connectorNotFound connector)
  | some shape =>
    if shape.type = document.style.connectorType then .ok ()
    else .error (.notConnector connector shape.type document.style.connectorType)

/-- Check that a new binding leads to a shape of the page. -/
def checkTarget (document : Document) (target : String) : Except PageFault Unit :=
  if Entries.has target document.shapes then .ok () else .error (.shapeNotFound target)

/-- Check both ends of a new binding. -/
def checkEnds (document : Document) (connector target : String) : Except PageFault Unit := do
  document.checkOwner connector
  document.checkTarget target

/-- Bind an end of a connector to a shape. -/
def bind (document : Document) (connector target : String) (terminal : Terminal) (id : String) :
    Except PageFault Binding × Document :=
  match document.checkEnds connector target with
  | .error fault => (.error fault, document)
  | .ok () =>
    let (id, counted) := document.identify "binding" id
    if Entries.has id counted.bindings then (.error (.bindingExists id), counted)
    else
      let binding : Binding := ⟨id, connector, target, terminal, document.style.connectorType⟩
      (.ok binding, { counted with bindings := Entries.set id binding counted.bindings })

/-- Undo a binding. -/
def unbind (document : Document) (id : String) : Except PageFault (Binding × Document) :=
  match Entries.find? id document.bindings with
  | none => .error (.bindingNotFound id)
  | some binding => .ok (binding, { document with bindings := Entries.erase id document.bindings })

/-- Note the outcome of a run of a connector. -/
def mark (document : Document) (id : String) (marker : Marker) : Document :=
  { document with markers := Entries.set id marker document.markers }

/-- The patch that gives a connector the colour of a marker, unless it has that colour. -/
def recoloring? (document : Document) (shape : Shape) (marker : Marker) : Option Patch :=
  let color := document.style.color marker
  if (Entries.find? "color" shape.props).bind Data.text? = some color then none
  else some { id := shape.id, props? := some (.record [("color", .str color)]) }

end Document

end Canvasflow.Page
