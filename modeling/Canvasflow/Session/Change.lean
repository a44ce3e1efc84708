import Canvasflow.Session.Basic

/-!
# Changes of a document in a session

The changes of a document, each followed by its notice. What consists of several changes, such as
the removal of a shape with everything inside it, sends a notice after every one of them, so
subscribers see every state in between and may change the document, too.
-/

namespace Canvasflow.Session

open Canvasflow.Connector Canvasflow.Page

variable (notify : Notify)

/-- Store a document and send a notice. -/
def store (document : Document) (notice : Notice) : Act Unit :=
  Act.change fun session => notify notice (session.withDocument document)

/-- Create a shape. -/
def createShape (new : NewShape) : Act Shape := do
  let (result, document) := (← get).document.create new
  match result with
  | .ok shape =>
    store notify document (.created shape)
    return shape
  | .error fault =>
    Act.change fun session => session.withDocument document
    throw (.page fault)

/-- Apply a patch to a shape. -/
def updateShape (patch : Patch) : Act Shape := do
  let (shape, document) ← Act.ofPage ((← get).document.update patch)
  store notify document (.changed shape)
  return shape

/-- Bind an end of a connector to a shape. -/
def createBinding (connector target : String) (terminal : Terminal) (id : String) : Act Binding := do
  let (result, document) := (← get).document.bind connector target terminal id
  match result with
  | .ok binding =>
    store notify document (.bound binding)
    return binding
  | .error fault =>
    Act.change fun session => session.withDocument document
    throw (.page fault)

/-- Undo a binding. -/
def deleteBinding (id : String) : Act Unit := do
  let (binding, document) ← Act.ofPage ((← get).document.unbind id)
  store notify document (.unbound binding)

/-- Bind the start of a connector to one shape and its end to another. -/
def connect (connector source target : String) : Act (List Binding) := do
  let first ← createBinding notify connector source .start ""
  let second ← createBinding notify connector target .finish ""
  return [first, second]

/-- Create a connector between two shapes, at the place of the first one. -/
def createConnector (source target text id : String) : Act Shape := do
  let document := (← get).document
  match document.shape? source with
  | none => throw (.page (.shapeNotFound source))
  | some start =>
    let shape ← createShape notify
      { type := document.style.connectorType, x := .double start.x, y := .double start.y, id := id
        props := [("text", .str text), ("color", .str document.style.okColor)] }
    let _ ← connect notify shape.id source target
    return shape

/-- Undo the bindings that involve a shape. -/
def loosen (id : String) : Act Unit := do
  (involving id (← get).document.pageBindings).forM fun binding => deleteBinding notify binding.id

/-- Take a shape off the page, if it is still there. The notice shows it as it was given. -/
def takeOff (id : String) (shape : Shape) : Act Unit := do
  let document := (← get).document
  if (document.shape? id).isNone then throw .gone
  store notify (document.remove id) (.deleted shape)

/-- Delete a shape with the shapes inside it and the bindings that involve them, to the given
depth. -/
def deleteShape : Nat → String → Act Unit
  | 0, _ => throw (.geometry .nestedTooDeeply)
  | depth + 1, id => do
    match (← get).document.shape? id with
    | none => throw (.page (.shapeNotFound id))
    | some shape =>
      ((← get).document.children id).forM (deleteShape depth)
      loosen notify id
      takeOff notify id shape

/-- Note the outcome of a run of a connector, and colour the connector accordingly. -/
def setMarker (id : String) (marker : Marker) : Act Unit := do
  let document := (← get).document
  match document.shape? id with
  | none => throw (.page (.connectorNotFound id))
  | some shape =>
    Act.change fun session => session.withDocument (session.document.mark id marker)
    match document.recoloring? shape marker with
    | some patch => let _ ← updateShape notify patch
    | none => pure ()

/-- Take an event of a user. An event at a point moves the pointer there. -/
def takeInput (event : InputEvent) : Act Unit :=
  Act.change fun session =>
    let document := session.document
    let moved := { document with pointer := event.point?.getD document.pointer }
    notify (.input event) (session.withDocument moved)

/-- Let a frame pass. -/
def passFrame : Act Unit :=
  Act.change (notify .frame)

/-- A fault while a scene is taken over: what the document refuses is a defect of the scene. -/
def asDefect : Fault → Fault
  | .page fault => if fault.isUnusable then .page fault else .scene (.invalid (.page fault))
  | other => other

/-- Create the shapes and then the bindings of a scene. -/
def applyScene (scene : Scene) : Act Unit :=
  ExceptT.adapt asDefect do
    scene.shapes.forM fun shape => do let _ ← createShape notify shape.toNew
    scene.bindings.forM fun binding => do
      let _ ← createBinding notify binding.connector binding.target binding.terminal binding.id

end Canvasflow.Session
