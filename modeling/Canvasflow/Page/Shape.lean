import Canvasflow.Data

/-!
# Shapes and bindings

What lies on a page: shapes, of which some are connectors, and bindings that attach the two ends of
a connector to shapes. A patch is a partial update of a shape; what it does not name stays.
-/

namespace Canvasflow.Page

/-- A shape. The program of a connector is its property `text`. -/
structure Shape where
  id : String
  type : String
  x : Float
  y : Float
  rotation : Float
  parent? : Option String
  props : Entries Data
  metadata : Entries Data
  deriving Inhabited

/-- The text of a shape: its property `text`, as messages show it; none and null are empty. -/
def Shape.text (shape : Shape) : String :=
  match Entries.find? "text" shape.props with
  | none | some .null => ""
  | some value => value.shown

/-- A shape as plain data. -/
def Shape.toData (shape : Shape) : Data :=
  .record [("id", .str shape.id), ("type", .str shape.type), ("x", .double shape.x),
    ("y", .double shape.y), ("rotation", .double shape.rotation),
    ("parent_id", (shape.parent?.map Data.str).getD .null), ("props", .record shape.props),
    ("meta", .record shape.metadata)]

/-- The two ends of a connector. -/
inductive Terminal where
  | start
  | finish
  deriving DecidableEq, Repr

/-- The name of an end. -/
def Terminal.name : Terminal → String
  | start => "start"
  | finish => "end"

/-- The end of a given name. -/
def Terminal.ofName? (name : String) : Option Terminal :=
  if name = "start" then some .start else if name = "end" then some .finish else none

/-- An attachment of one end of a connector to a shape. -/
structure Binding where
  id : String
  connector : String
  target : String
  terminal : Terminal
  type : String
  deriving DecidableEq, Repr

/-- A partial update of a shape. Properties and metadata are set key by key. The values are checked
when the patch is applied. -/
structure Patch where
  id : String
  type? : Option String := none
  x? : Option Data := none
  y? : Option Data := none
  rotation? : Option Data := none
  props? : Option Data := none
  metadata? : Option Data := none

/-- A patch as a record of what it names. -/
def Patch.toData (patch : Patch) : Data :=
  let part (key : String) (value : Option Data) : List (String × Data) :=
    match value with
    | some data => [(key, data)]
    | none => []
  .record ([("id", .str patch.id)] ++ part "type" (patch.type?.map Data.str) ++ part "x" patch.x? ++
    part "y" patch.y? ++ part "rotation" patch.rotation? ++ part "props" patch.props? ++
    part "meta" patch.metadata?)

end Canvasflow.Page
