import Canvasflow.Data
import Canvasflow.Geometry.GridIndex

/-!
# The plane of doubles

Documents have doubles as coordinates. Here is what a grid over doubles needs, their whole parts,
and the records in which programs see points and boxes.
-/

namespace Canvasflow.Geometry

instance : Floored Float where
  floor x := match Double.floor? x with
    | some n => .ok n
    | none => .error (if x.isNaN then .notANumber else .infinite)

/-- A coordinate to the millionth, if it is not large; a half goes up. -/
def toMillionths (x : Float) : Float :=
  if x.isFinite && x.abs < 1e9 then
    match Double.floor? (x * 1e6 + 0.5) with
    | some whole => Float.ofInt whole / 1e6
    | none => x
  else x

/-- A point as a record. -/
def pointRecord (point : Point Float) : Data :=
  .record [("x", .double point.x), ("y", .double point.y)]

/-- A box as a record of its corner, its sides, its extreme coordinates and its middle. -/
def boxRecord (box : Box Float) : Data :=
  .record [("x", .double box.x), ("y", .double box.y), ("w", .double box.w), ("h", .double box.h),
    ("minX", .double box.x), ("minY", .double box.y), ("maxX", .double box.maxX),
    ("maxY", .double box.maxY), ("midX", .double box.center.x), ("midY", .double box.center.y),
    ("center", pointRecord box.center)]

end Canvasflow.Geometry
