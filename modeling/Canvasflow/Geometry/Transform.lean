import Canvasflow.Geometry.Box

/-!
# Transforms of the plane

A transform is a matrix of three rows that acts on a point with a third coordinate of one. Shapes
are placed by turning them about their own origin and moving that origin; `Transform.after` nests
one placement inside another.
-/

namespace Canvasflow.Geometry

/-- A row of three numbers. -/
structure Triple (K : Type) where
  first : K
  second : K
  third : K
  deriving Repr, Inhabited

/-- The sum of the products of the entries, from left to right. -/
def Triple.dot {K : Type} [Add K] [Mul K] (u v : Triple K) : K :=
  u.first * v.first + u.second * v.second + u.third * v.third

/-- A transform by the rows of its matrix. -/
structure Transform (K : Type) where
  top : Triple K
  middle : Triple K
  bottom : Triple K
  deriving Repr, Inhabited

namespace Transform

variable {K : Type} [OfNat K 0] [OfNat K 1]

/-- The transform that moves nothing. -/
def unit : Transform K :=
  ⟨⟨1, 0, 0⟩, ⟨0, 1, 0⟩, ⟨0, 0, 1⟩⟩

/-- Turn about the origin by an angle with the given cosine and sine, and then move the origin to a
point. -/
def place [Neg K] (origin : Point K) (cosine sine : K) : Transform K :=
  ⟨⟨cosine, -sine, origin.x⟩, ⟨sine, cosine, origin.y⟩, ⟨0, 0, 1⟩⟩

omit [OfNat K 0] [OfNat K 1] in
/-- The transform that acts first by `inner` and then by `outer`. -/
def after [Add K] [Mul K] (outer inner : Transform K) : Transform K :=
  let left : Triple K := ⟨inner.top.first, inner.middle.first, inner.bottom.first⟩
  let center : Triple K := ⟨inner.top.second, inner.middle.second, inner.bottom.second⟩
  let right : Triple K := ⟨inner.top.third, inner.middle.third, inner.bottom.third⟩
  let row (outer : Triple K) : Triple K := ⟨outer.dot left, outer.dot center, outer.dot right⟩
  ⟨row outer.top, row outer.middle, row outer.bottom⟩

/-- The image of a point. -/
def apply [Add K] [Mul K] (transform : Transform K) (point : Point K) : Point K :=
  let lifted : Triple K := ⟨point.x, point.y, 1⟩
  ⟨lifted.dot transform.top, lifted.dot transform.middle⟩

end Transform

/-- Place by an angle. The angle zero, of either sign, is its own sine, and its cosine is one. -/
def Transform.turned (origin : Point Float) (angle : Float) : Transform Float :=
  if angle == 0.0 then .place origin 1.0 angle else .place origin angle.cos angle.sin

/-- Place by an angle, which must not be infinite. -/
def Transform.turned? (origin : Point Float) (angle : Float) : Option (Transform Float) :=
  if angle.isInf then none else some (.turned origin angle)

example : (Transform.place ⟨5, 7⟩ 0 1 : Transform Int).apply ⟨1, 0⟩ = ⟨5, 8⟩ := rfl

end Canvasflow.Geometry
