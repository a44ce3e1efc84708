import Canvasflow.Geometry.Plane
import Canvasflow.Geometry.Polygon
import Canvasflow.Geometry.Survey
import Canvasflow.Geometry.Transform
import Canvasflow.Page.Document

/-!
# Layout

Where the shapes of a document lie on the page. A shape is a rectangle with the sides that its
properties `w` and `h` give, turned and moved inside the shape that holds it, if any. The way from
a shape outwards passes every shape at most once, so the number of shapes bounds its length; a
longer way can only lead around a circle.
-/

namespace Canvasflow.Page

open Canvasflow.Geometry

/-- How a shape lies inside what holds it. -/
def Shape.placement (shape : Shape) : Transform Float :=
  .turned ⟨shape.x, shape.y⟩ shape.rotation

/-- A side of a shape: zero when the property is absent or blank. -/
def Shape.side (shape : Shape) (name : String) : Except Geometry.Fault Float :=
  match Entries.find? name shape.props with
  | none => .ok 0.0
  | some value => if value.isBlank then .ok 0.0 else value.toFloat.mapError .side

namespace Document

/-- How a shape lies on the page, found in at most the given number of steps outwards. -/
def placementWithin (document : Document) : Nat → String → Except Geometry.Fault (Option (Transform Float))
  | 0, _ => .error .nestedTooDeeply
  | steps + 1, id =>
    match document.shape? id with
    | none => .ok none
    | some shape =>
      match shape.parent? with
      | none => .ok (some shape.placement)
      | some parent => do
        match ← document.placementWithin steps parent with
        | none => return some shape.placement
        | some outer => return some (outer.after shape.placement)

/-- How a shape lies on the page, if it is there. -/
def placement? (document : Document) (id : String) : Except Geometry.Fault (Option (Transform Float)) :=
  document.placementWithin (document.shapes.length + 1) id

/-- The outline of a shape on the page. -/
def outline (document : Document) (shape : Shape) : Except Geometry.Fault (Polygon Float) := do
  let w ← shape.side "w"
  let h ← shape.side "h"
  let placement := (← document.placement? shape.id).getD .unit
  return (Polygon.rectangle w h).map placement.apply

/-- The box around a shape on the page. -/
def bounds (document : Document) (shape : Shape) : Except Geometry.Fault (Box Float) :=
  (document.outline shape).map Box.hull

/-- The box around the shape of an identity, if there is one. -/
def bounds? (document : Document) (id : String) : Except Geometry.Fault (Option (Box Float)) :=
  match document.shape? id with
  | none => .ok none
  | some shape => (document.bounds shape).map some

/-- The shapes whose boxes overlap or touch what is visible; all shapes when no part is singled
out. -/
def inView (document : Document) : Except Geometry.Fault (List Shape) :=
  match document.viewport? with
  | none => .ok document.pageShapes
  | some region => keep (fun shape => do return (← document.bounds shape).collides region)
      document.pageShapes

/-- The first shape of a list that passes a filter, has an area, and covers a point. -/
def topmost (document : Document) (passes : Shape → Bool) (point : Point Float) :
    List Shape → Except Geometry.Fault (Option Shape)
  | [] => .ok none
  | shape :: rest =>
    if passes shape then do
      let outline ← document.outline shape
      let box := Box.hull outline
      if !(box.w == 0.0 || box.h == 0.0) && Polygon.covers outline point then return some shape
      else document.topmost passes point rest
    else document.topmost passes point rest

/-- The topmost shape at a point that passes a filter. -/
def shapeAt (document : Document) (passes : Shape → Bool) (point : Point Float) :
    Except Geometry.Fault (Option Shape) :=
  document.topmost passes point document.pageShapes.reverse

/-- The shapes of a page as sites. -/
def survey (document : Document) (index? : Option (GridIndex Float)) : Survey Float where
  sites := document.pageShapes.map fun shape =>
    ⟨shape.id, shape.type, ⟨shape.x, shape.y⟩, document.outline shape⟩
  index? := index?

end Document

end Canvasflow.Page
