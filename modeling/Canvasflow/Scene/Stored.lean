import Canvasflow.Data
import Canvasflow.Page.Document

/-!
# Stored scenes

A scene is what a file keeps of a document: its shapes from bottom to top, its bindings, and a few
words about it. `Scene.ofData` reads a scene from plain data and names the first thing that is
wrong, and `Scene.toData` writes it. Identities and types may be written as any value and are read
as its text.
-/

namespace Canvasflow.Scene

open Canvasflow.Page

/-- What is wrong with the data of a scene. -/
inductive Defect where
  | entryNotRecord (kind type : String)
  | missingField (kind key : String)
  | notNumber (kind key : String)
  | partsNotRecords (shape : String)
  | badTerminal (name : String)
  | rootNotRecord
  | partsNotLists
  | page (fault : PageFault)
  deriving DecidableEq, Repr

/-- What is said of a defect. -/
def Defect.message : Defect → String
  | entryNotRecord kind type => kind ++ " entry must be an object, got " ++ type
  | missingField kind key => kind ++ " is missing required field '" ++ key ++ "'"
  | notNumber kind key => kind ++ " field '" ++ key ++ "' must be a number"
  | partsNotRecords shape => "Shape " ++ shape ++ ": props and meta must be objects"
  | badTerminal name => "Binding terminal must be 'start' or 'end', got " ++ Text.quoted name
  | rootNotRecord => "Scene root must be an object"
  | partsNotLists => "'shapes' and 'bindings' must be arrays"
  | page fault => fault.message

/-- Why data is not a scene: it has a defect, a coordinate is too large for a double, or its words
about itself are not a record. -/
inductive SceneFault where
  | invalid (defect : Defect)
  | tooLarge
  | metadataNotRecord
  deriving DecidableEq, Repr

/-- A shape in a scene. Its parent is kept as it is written. -/
structure StoredShape where
  id : String
  type : String
  x : Float
  y : Float
  rotation : Float
  parent : Data
  props : Entries Data
  metadata : Entries Data
  deriving Inhabited

/-- A binding in a scene. -/
structure StoredBinding where
  id : String
  connector : String
  target : String
  terminal : Terminal
  type : String
  deriving DecidableEq, Repr

/-- Words about a scene, kept as they are written. -/
structure About where
  name : Data
  description : Data
  created : Data
  modified : Data
  deriving Inhabited

end Scene

/-- A document as a file keeps it. -/
structure Scene where
  version : String
  about : Scene.About
  shapes : List Scene.StoredShape
  bindings : List Scene.StoredBinding
  deriving Inhabited

namespace Scene

open Canvasflow.Page

/-- The version of the scenes that are written. -/
def currentVersion : String := "1.0.0"

/-- The value of a field, or another value when the field is absent. -/
def valueOr (fields : Entries Data) (key : String) (absent : Data) : Data :=
  (Entries.find? key fields).getD absent

/-- The value of a field that has to be there. -/
def required (kind key : String) (fields : Entries Data) : Except SceneFault Data :=
  match Entries.find? key fields with
  | some value => .ok value
  | none => .error (.invalid (.missingField kind key))

/-- The fields of an entry, which has to be a record. -/
def entryFields (kind : String) (data : Data) : Except SceneFault (Entries Data) :=
  match data with
  | .record fields => .ok fields
  | other => .error (.invalid (.entryNotRecord kind other.typeName))

/-- A number that may be absent. -/
def coordinate (key : String) (fields : Entries Data) : Except SceneFault Float :=
  match valueOr fields key (.double 0.0) with
  | .num number => match number.toFloat? with
    | some x => .ok x
    | none => .error .tooLarge
  | _ => .error (.invalid (.notNumber "Shape" key))

/-- Read a shape. -/
def StoredShape.ofData (data : Data) : Except SceneFault StoredShape := do
  let fields ← entryFields "Shape" data
  let id ← required "Shape" "id" fields
  match valueOr fields "props" (.record []), valueOr fields "meta" (.record []) with
  | .record props, .record metadata =>
    let type ← required "Shape" "type" fields
    let x ← coordinate "x" fields
    let y ← coordinate "y" fields
    let rotation ← coordinate "rotation" fields
    return ⟨id.shown, type.shown, x, y, rotation, valueOr fields "parent_id" .null, props, metadata⟩
  | _, _ => throw (.invalid (.partsNotRecords id.shown))

/-- Write a shape. -/
def StoredShape.toData (shape : StoredShape) : Data :=
  let parent : List (String × Data) := match shape.parent with
    | .null => []
    | parent => [("parent_id", parent)]
  .record ([("id", .str shape.id), ("type", .str shape.type), ("x", .double shape.x),
    ("y", .double shape.y), ("rotation", .double shape.rotation), ("props", .record shape.props),
    ("meta", .record shape.metadata)] ++ parent)

/-- Read a binding. -/
def StoredBinding.ofData (data : Data) : Except SceneFault StoredBinding := do
  let fields ← entryFields "Binding" data
  let name := (← required "Binding" "terminal" fields).shown
  match Terminal.ofName? name with
  | none => throw (.invalid (.badTerminal name))
  | some terminal =>
    let id ← required "Binding" "id" fields
    let connector ← required "Binding" "from_id" fields
    let target ← required "Binding" "to_id" fields
    return ⟨id.shown, connector.shown, target.shown, terminal,
      (valueOr fields "type" (.str "arrow")).shown⟩

/-- Write a binding. -/
def StoredBinding.toData (binding : StoredBinding) : Data :=
  .record [("id", .str binding.id), ("type", .str binding.type),
    ("from_id", .str binding.connector), ("to_id", .str binding.target),
    ("terminal", .str binding.terminal.name)]

/-- Words about a scene; what is blank of the times is filled in: now, and the time of creation. -/
def About.complete (now : Data) (about : About) : About :=
  let created := if about.created.isBlank then now else about.created
  { about with
    created := created
    modified := if about.modified.isBlank then created else about.modified }

/-- Words about a new scene. -/
def About.new (now : Data) (name : Data) : About :=
  About.complete now ⟨name, .str "", .str "", .str ""⟩

/-- Read the words about a scene. -/
def About.ofData (now : Data) (data : Data) : Except SceneFault About :=
  match data with
  | .record fields =>
    .ok (About.complete now ⟨valueOr fields "name" (.str "Untitled"),
      valueOr fields "description" (.str ""), valueOr fields "created" (.str ""),
      valueOr fields "modified" (.str "")⟩)
  | _ => .error .metadataNotRecord

/-- Write the words about a scene. -/
def About.toData (about : About) : Data :=
  .record [("name", about.name), ("description", about.description), ("created", about.created),
    ("modified", about.modified)]

/-- Read a scene at the given time. -/
def ofData (now : Data) (data : Data) : Except SceneFault Scene :=
  match data with
  | .record fields =>
    match valueOr fields "shapes" (.list []), valueOr fields "bindings" (.list []) with
    | .list shapes, .list bindings => do
      let about ← About.ofData now (valueOr fields "metadata" (.record []))
      let shapes ← shapes.mapM StoredShape.ofData
      let bindings ← bindings.mapM StoredBinding.ofData
      return ⟨(valueOr fields "schema_version" (.str currentVersion)).shown, about, shapes, bindings⟩
    | _, _ => .error (.invalid .partsNotLists)
  | _ => .error (.invalid .rootNotRecord)

/-- Write a scene. -/
def toData (scene : Scene) : Data :=
  .record [("schema_version", .str scene.version), ("metadata", scene.about.toData),
    ("shapes", .list (scene.shapes.map StoredShape.toData)),
    ("bindings", .list (scene.bindings.map StoredBinding.toData))]

/-- Note the time of a change. -/
def touch (now : Data) (scene : Scene) : Scene :=
  { scene with about := { scene.about with modified := now } }

/-- The scene of a document. -/
def ofDocument (now : Data) (name : Data) (document : Document) : Scene where
  version := currentVersion
  about := About.new now name
  shapes := document.pageShapes.map fun shape =>
    ⟨shape.id, shape.type, shape.x, shape.y, shape.rotation,
      (shape.parent?.map Data.str).getD .null, shape.props, shape.metadata⟩
  bindings := document.pageBindings.map fun binding =>
    ⟨binding.id, binding.connector, binding.target, binding.terminal, binding.type⟩

/-- The new shape that a stored one describes. -/
def StoredShape.toNew (shape : StoredShape) : NewShape where
  type := shape.type
  x := .double shape.x
  y := .double shape.y
  rotation := .double shape.rotation
  parent := shape.parent
  props := shape.props
  metadata := shape.metadata
  id := shape.id

end Scene

end Canvasflow
