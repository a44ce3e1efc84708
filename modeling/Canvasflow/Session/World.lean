import Canvasflow.Program.Native
import Canvasflow.Session.Basic

/-!
# What programs see of a session

The answers that a program gets to its questions about the page. They are read off the document as
it is when the program starts, and nothing in them gives a program a way to change it.
-/

namespace Canvasflow.Session

open Canvasflow.Geometry Canvasflow.Page Canvasflow.Program Canvasflow.Propagation

/-- A fault of a measurement as a program meets it. -/
def failureOf : Geometry.Fault → Failure
  | .side .wrongType => .badType
  | .side .malformed | .cell .notANumber => .badValue
  | .side .tooLarge | .cell .infinite => .overflow
  | .nestedTooDeeply => .tooDeep

/-- A measurement as a program meets it. -/
def measured {α : Type} (result : Except Geometry.Fault α) (show? : α → Data) : Except Failure Data :=
  match result with
  | .ok value => .ok (show? value)
  | .error fault => .error (failureOf fault)

/-- Nothing, or a value. -/
def orNull {α : Type} (toData : α → Data) : Option α → Data
  | some value => toData value
  | none => .null

/-- An offset as a record; of shapes that are not there it is zero. -/
def offsetRecord : Option (Point Float) → Data
  | some point => pointRecord point
  | none => .record [("x", .int 0), ("y", .int 0)]

/-- Some shapes as snapshots. -/
def snapshots (shapes : List Shape) : Data :=
  .list (shapes.map pack)

/-- The snapshots of the shapes at some sites. -/
def sitesAsShapes (document : Document) (sites : List (Site Float)) : Data :=
  snapshots (sites.filterMap fun site => document.shape? site.id)

/-- The answer to a question about a document, with an index of its shapes if there is one. -/
def answer (document : Document) (options : Options) (index? : Option (GridIndex Float)) :
    Question → Except Failure Data
  | .shape id => .ok (orNull pack (id.bind document.shape?))
  | .bounds id => match id with
    | none => .ok .null
    | some id => measured (document.bounds? id) (orNull boxRecord)
  | .pageShapes => .ok (snapshots document.pageShapes)
  | .shapesInView => measured document.inView snapshots
  | .pagePoint => .ok (pointRecord document.pointer)
  | .intersects id =>
    measured ((document.survey index?).overlapping options.connectorType id) fun sites =>
      .bool !sites.isEmpty
  | .getIntersects id =>
    measured ((document.survey index?).overlapping options.connectorType id) (sitesAsShapes document)
  | .contains id =>
    measured ((document.survey index?).inside options.closedTypes id) fun sites =>
      .bool !sites.isEmpty
  | .getContains id =>
    measured ((document.survey index?).inside options.closedTypes id) (sitesAsShapes document)
  | .distance a b => .ok (offsetRecord ((document.survey index?).offset a b))
  | .distanceCenter a b => measured ((document.survey index?).centerOffset a b) offsetRecord

/-- The surroundings of a program that an engine runs. -/
def world (session : Session) (engine : Engine) : World where
  ask := answer session.document engine.options engine.index?
  draw := World.none.draw

end Canvasflow.Session
