import Canvasflow.Geometry.Box

/-!
# Polygons

Outlines as lists of vertices, the last of which is joined to the first. `Polygon.cross` says
whether two outlines have edges that cross, by the sides of a line on which end points lie; an
outline that lies inside another one does not cross it. `Polygon.covers` says whether a point lies
inside an outline or on it, in single precision.
-/

namespace Canvasflow.Geometry

/-- An outline: its vertices in order. -/
abbrev Polygon (K : Type) := List (Point K)

namespace Polygon

variable {K : Type}

/-- The outline of a rectangle with a corner at the origin. -/
def rectangle [OfNat K 0] (w h : K) : Polygon K :=
  [⟨0, 0⟩, ⟨w, 0⟩, ⟨w, h⟩, ⟨0, h⟩]

/-- The edges, from each vertex to the next and from the last one to the first. -/
def edges : Polygon K → List (Point K × Point K)
  | [] => []
  | first :: rest => (first :: rest).zip (rest ++ [first])

section Crossing

variable [Sub K] [Mul K] [LT K] [DecidableLT K]

/-- Whether the turn from `b` to `c` around `a` is anticlockwise. -/
def leftTurn (a b c : Point K) : Bool :=
  decide ((b.y - a.y) * (c.x - a.x) < (c.y - a.y) * (b.x - a.x))

/-- Whether two edges cross: the ends of each lie on two sides of the other. -/
def edgesCross (a b : Point K × Point K) : Bool :=
  (leftTurn a.1 b.1 b.2 != leftTurn a.2 b.1 b.2) && (leftTurn a.1 a.2 b.1 != leftTurn a.1 a.2 b.2)

/-- Whether some edges of two outlines cross. An outline with fewer than two vertices has no edges.
-/
def cross (a b : Polygon K) : Bool :=
  if a.length < 2 ∨ b.length < 2 then false
  else a.edges.any fun edge => b.edges.any (edgesCross edge)

end Crossing

/-- A point in single precision. -/
structure SinglePoint where
  x : Float32
  y : Float32

/-- Round a point to single precision. -/
def toSingle (point : Point Float) : SinglePoint :=
  ⟨point.x.toFloat32, point.y.toFloat32⟩

/-- What an edge says about a point: that it lies on the edge, that a ray from the point crosses the
edge, or nothing. -/
inductive EdgeTest where
  | onEdge
  | crossed
  | missed
  deriving DecidableEq, Repr

/-- Whether `b` lies between `a` and `c`, in either order. -/
def between (a b c : Float32) : Bool :=
  (a ≤ b && b ≤ c) || (c ≤ b && b ≤ a)

/-- Test a point against an edge. Differences are taken in single and products in double
precision. -/
def testEdge (point start finish : SinglePoint) : EdgeTest :=
  if (start.y ≤ point.y && finish.y ≤ point.y) || (point.y < start.y && point.y < finish.y) ||
      (start.x < point.x && finish.x < point.x) then
    if point.y == finish.y && (point.x == finish.x ||
        (point.y == start.y && between start.x point.x finish.x)) then .onEdge
    else .missed
  else
    let turn := (point.y - start.y).toFloat * (finish.x - start.x).toFloat -
      (point.x - start.x).toFloat * (finish.y - start.y).toFloat
    if turn == 0.0 then .onEdge
    else if (if finish.y < start.y then -turn else turn) > 0.0 then .crossed
    else .missed

/-- Whether a point lies inside an outline or on it. An outline with fewer than three vertices
covers no point. -/
def covers (outline : Polygon Float) (point : Point Float) : Bool :=
  if outline.length < 3 then false
  else
    let tests := (edges outline).map fun edge =>
      testEdge (toSingle point) (toSingle edge.1) (toSingle edge.2)
    tests.contains .onEdge || tests.count .crossed % 2 == 1

example : cross (rectangle (4 : Int) 1) [⟨1, -1⟩, ⟨2, 3⟩] = true := by decide

end Polygon

end Canvasflow.Geometry
