/-!
# Points and boxes

Points of the plane and boxes with sides along its axes, over any kind of number: documents use
doubles, and exact numbers obey the laws of an ordered field. A box is given by a corner and its
sides, and its sides may be negative. Two comparisons are made throughout: `Box.contains` and
`Box.collides`, both with edges included.
-/

namespace Canvasflow.Geometry

/-- A point of the plane, or an offset. -/
structure Point (K : Type) where
  x : K
  y : K
  deriving Repr, Inhabited

instance {K : Type} [Sub K] : Sub (Point K) where
  sub a b := ⟨a.x - b.x, a.y - b.y⟩

/-- A box: its corner, its width and its height. -/
structure Box (K : Type) where
  x : K
  y : K
  w : K
  h : K
  deriving Repr, Inhabited, BEq

namespace Box

variable {K : Type}

section Sides

variable [Add K]

/-- The abscissa of the side opposite to the corner. -/
def maxX (box : Box K) : K :=
  box.x + box.w

/-- The ordinate of the side opposite to the corner. -/
def maxY (box : Box K) : K :=
  box.y + box.h

/-- The point in the middle. -/
def center [Div K] [OfNat K 2] (box : Box K) : Point K :=
  ⟨box.x + box.w / 2, box.y + box.h / 2⟩

/-- Whether the other box lies inside. -/
def contains [LE K] [DecidableLE K] (box other : Box K) : Bool :=
  decide (box.x ≤ other.x) && decide (box.y ≤ other.y) &&
    decide (other.maxX ≤ box.maxX) && decide (other.maxY ≤ box.maxY)

/-- Whether no side separates the boxes: they overlap or touch. -/
def collides [LT K] [DecidableLT K] (box other : Box K) : Bool :=
  !(decide (other.maxX < box.x) || decide (box.maxX < other.x) ||
    decide (other.maxY < box.y) || decide (box.maxY < other.y))

end Sides

section Hull

variable [LT K] [LE K] [DecidableLT K] [DecidableLE K]

/-- The lesser number; what is not a number wins. -/
def lesser (a b : K) : K :=
  if b < a ∨ ¬ b ≤ b then b else a

/-- The greater number; what is not a number wins. -/
def greater (a b : K) : K :=
  if a < b ∨ ¬ b ≤ b then b else a

/-- The least box around some points; the empty box at the origin around none. -/
def hull [Sub K] [OfNat K 0] : List (Point K) → Box K
  | [] => ⟨0, 0, 0, 0⟩
  | first :: rest =>
    let least := rest.foldl (fun p q => ⟨lesser p.x q.x, lesser p.y q.y⟩) first
    let greatest := rest.foldl (fun p q => ⟨greater p.x q.x, greater p.y q.y⟩) first
    ⟨least.x, least.y, greatest.x - least.x, greatest.y - least.y⟩

end Hull

end Box

example : Box.hull [⟨3, 1⟩, ⟨0, 5⟩] = (⟨0, 1, 3, 4⟩ : Box Int) := rfl

example : (⟨0, 0, 2, 2⟩ : Box Int).collides ⟨2, 1, 5, 5⟩ = true := by decide

end Canvasflow.Geometry
