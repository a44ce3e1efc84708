import Canvasflow.Page.Layout
import Canvasflow.Proofs.Geometry.ExactPlane
import Canvasflow.Proofs.Geometry.Rectangles
import Canvasflow.Proofs.Number.Special

/-!
# Upright shapes

A shape that lies in no other shape and is not turned covers a rectangle with sides along the axes.
Its outline is computed by way of a matrix, but with a cosine of one and a sine of zero nothing is
rounded as long as the corners are exact (`Upright.outline_exact`).
-/

namespace Canvasflow

namespace Double

variable {x : Float} {q : ℚ}

theorem standsFor_zero : StandsFor 0 0 := ⟨by decide, value_zero⟩

theorem standsFor_one : StandsFor 1 1 := by
  have hone := standsFor_ofInt (n := 1) (by decide)
  rwa [Int.cast_one, show Float.ofInt 1 = 1 by decide] at hone

/-- What equals zero stands for zero. -/
theorem standsFor_of_beq_zero (h : (x == 0.0) = true) : StandsFor x 0 ∧ StandsFor (-x) 0 := by
  have hzero {y : Float} {negative : Bool} (hy : view y = .finite negative 0 (-1074)) :
      StandsFor y 0 := ⟨(isFinite_iff y).mpr ⟨_, _, _, hy⟩, by simp [value, hy, View.value]⟩
  obtain rfl | rfl := eq_of_beq_zero h
  · exact ⟨hzero rfl, hzero rfl⟩
  · exact ⟨hzero rfl, hzero rfl⟩

end Double

namespace Geometry

open Double

/-- A point that is moved without a turn, in exact coordinates. -/
theorem apply_turned_exact (origin point : Point Float) {angle : Float} {p q : Point ℚ}
    (hangle : (angle == 0.0) = true) (hx : StandsFor origin.x p.x) (hy : StandsFor origin.y p.y)
    (hx' : StandsFor point.x q.x) (hy' : StandsFor point.y q.y) (hsum : Representable (p.x + q.x))
    (hsum' : Representable (p.y + q.y)) :
    StandsFor ((Transform.turned origin angle).apply point).x (p.x + q.x) ∧
      StandsFor ((Transform.turned origin angle).apply point).y (p.y + q.y) := by
  obtain ⟨hsine, hnegated⟩ := standsFor_of_beq_zero hangle
  have hzero : Representable 0 := standsFor_zero.representable
  have hcosine : StandsFor 1.0 1 := by
    rw [show (1.0 : Float) = 1 by decide]
    exact standsFor_one
  simp only [Transform.turned, hangle, if_true, Transform.place, Transform.apply, Triple.dot]
  constructor
  · have hfirst := hx'.mul hcosine (by rw [mul_one]; exact hx'.representable)
    have hsecond := hy'.mul hnegated (by rw [mul_zero]; exact hzero)
    have hthird := standsFor_one.mul hx (by rw [one_mul]; exact hx.representable)
    rw [mul_one] at hfirst
    rw [mul_zero] at hsecond
    rw [one_mul] at hthird
    have htwo := hfirst.add hsecond (by rw [add_zero]; exact hfirst.representable)
    rw [add_zero] at htwo
    rw [add_comm p.x]
    exact htwo.add hthird (by rwa [add_comm])
  · have hfirst := hx'.mul hsine (by rw [mul_zero]; exact hzero)
    have hsecond := hy'.mul hcosine (by rw [mul_one]; exact hy'.representable)
    have hthird := standsFor_one.mul hy (by rw [one_mul]; exact hy.representable)
    rw [mul_zero] at hfirst
    rw [mul_one] at hsecond
    rw [one_mul] at hthird
    have htwo := hfirst.add hsecond (by rw [zero_add]; exact hsecond.representable)
    rw [zero_add] at htwo
    rw [add_comm p.y]
    exact htwo.add hthird (by rwa [add_comm])

end Geometry

namespace Page.Document

open Canvasflow.Geometry Double

/-- A shape of a page that lies in no other shape, is not turned, and fills a box. -/
structure Upright (document : Document) (shape : Shape) (box : Box ℚ) : Prop where
  known : document.shape? shape.id = some shape
  outermost : shape.parent? = none
  unturned : (shape.rotation == 0.0) = true
  left : Double.StandsFor shape.x box.x
  top : Double.StandsFor shape.y box.y
  width : ∃ w, shape.side "w" = .ok w ∧ Double.StandsFor w box.w
  height : ∃ h, shape.side "h" = .ok h ∧ Double.StandsFor h box.h
  positive : box.Positive

variable {document : Document} {shape : Shape} {box : Box ℚ}

theorem Upright.placement?_eq (h : document.Upright shape box) :
    document.placement? shape.id = .ok (some shape.placement) := by
  rw [placement?, placementWithin]
  simp only [h.known, h.outermost]

/-- The outline of an upright shape is that of its box. -/
theorem Upright.outline_exact (h : document.Upright shape box) (hexact : Exact box.corners) :
    ∃ outline, document.outline shape = .ok outline ∧ (∀ p ∈ outline, p.Finite) ∧
      outline.map Point.exact = box.corners := by
  obtain ⟨w, hw, hwidth⟩ := h.width
  obtain ⟨height, hh, hheight⟩ := h.height
  obtain ⟨hleft, htop⟩ := hexact.coordinates ⟨box.x, box.y⟩ (by simp [Box.corners])
  obtain ⟨hright, hbottom⟩ := hexact.coordinates ⟨box.maxX, box.maxY⟩ (by simp [Box.corners])
  rw [← add_zero box.x] at hleft
  rw [← add_zero box.y] at htop
  -- each corner is where the origin of the shape is moved to it
  have hcorner {p : Point Float} {x y : ℚ} (hx : Double.StandsFor p.x x)
      (hy : Double.StandsFor p.y y) (hsum : Representable (box.x + x))
      (hsum' : Representable (box.y + y)) :
      (shape.placement.apply p).Finite ∧
        (shape.placement.apply p).exact = ⟨box.x + x, box.y + y⟩ := by
    obtain ⟨⟨hfinite, hvalue⟩, hfinite', hvalue'⟩ :=
      apply_turned_exact ⟨shape.x, shape.y⟩ p (p := ⟨box.x, box.y⟩) (q := ⟨x, y⟩) h.unturned h.left
        h.top hx hy hsum hsum'
    refine ⟨⟨hfinite, hfinite'⟩, ?_⟩
    rw [← hvalue, ← hvalue']
    rfl
  have hfirst := hcorner (p := ⟨0, 0⟩) standsFor_zero standsFor_zero hleft htop
  have hsecond := hcorner (p := ⟨w, 0⟩) hwidth standsFor_zero hright htop
  have hthird := hcorner (p := ⟨w, height⟩) hwidth hheight hright hbottom
  have hfourth := hcorner (p := ⟨0, height⟩) standsFor_zero hheight hleft hbottom
  refine ⟨(Polygon.rectangle w height).map shape.placement.apply, ?_, ?_, ?_⟩
  · rw [outline, hw, hh, h.placement?_eq]
    rfl
  · simp only [Polygon.rectangle, List.map_cons, List.map_nil, List.forall_mem_cons,
      hfirst.1, hsecond.1, hthird.1, hfourth.1, true_and]
    exact List.forall_mem_nil _
  · simp only [Polygon.rectangle, List.map_cons, List.map_nil, hfirst.2, hsecond.2, hthird.2,
      hfourth.2, add_zero]
    rfl

/-! ## Whole sides -/

/-- A box with whole numbers, in exact coordinates. -/
def wholeBox (box : Box ℤ) : Box ℚ :=
  ⟨box.x, box.y, box.w, box.h⟩

/-- A box whose numbers have at most 24 binary digits. -/
def Small (box : Box ℤ) : Prop :=
  box.x.natAbs < 2 ^ 24 ∧ box.y.natAbs < 2 ^ 24 ∧ box.w.natAbs < 2 ^ 24 ∧ box.h.natAbs < 2 ^ 24

instance (box : Box ℤ) : Decidable (Small box) :=
  inferInstanceAs (Decidable (_ ∧ _))

/-- The corners of small boxes are exact. -/
theorem exact_corners {a b : Box ℤ} (ha : Small a) (hb : Small b) :
    Exact ((wholeBox a).corners ++ (wholeBox b).corners) := by
  have hcorner {box : Box ℤ} (h : Small box) : ∀ p ∈ (wholeBox box).corners,
      ∃ m n : ℤ, p = ⟨m, n⟩ ∧ m.natAbs < 2 ^ 25 ∧ n.natAbs < 2 ^ 25 := by
    obtain ⟨hx, hy, hw, hh⟩ := h
    simp only [Box.corners, List.forall_mem_cons, Box.maxX, Box.maxY, wholeBox]
    refine ⟨⟨box.x, box.y, rfl, by omega, by omega⟩,
      ⟨box.x + box.w, box.y, by push_cast; rfl, by omega, by omega⟩,
      ⟨box.x + box.w, box.y + box.h, by push_cast; rfl, by omega, by omega⟩,
      ⟨box.x, box.y + box.h, by push_cast; rfl, by omega, by omega⟩,
      List.forall_mem_nil _⟩
  refine exact_of_whole fun p hp => ?_
  rcases List.mem_append.mp hp with hp | hp
  · exact hcorner ha p hp
  · exact hcorner hb p hp

/-- A shape of whole numbers that is not turned and lies in no other shape fills its box. -/
theorem upright_of_whole {box : Box ℤ} (hknown : document.shape? shape.id = some shape)
    (houtermost : shape.parent? = none) (hunturned : (shape.rotation == 0.0) = true)
    (hx : shape.x = Float.ofInt box.x) (hy : shape.y = Float.ofInt box.y)
    (hw : shape.side "w" = .ok (Float.ofInt box.w)) (hh : shape.side "h" = .ok (Float.ofInt box.h))
    (hsmall : Small box) (hpositive : 0 < box.w ∧ 0 < box.h) :
    document.Upright shape (wholeBox box) := by
  obtain ⟨hx', hy', hw', hh'⟩ := hsmall
  have hstands {n : ℤ} (h : n.natAbs < 2 ^ 24) : Double.StandsFor (Float.ofInt n) n :=
    standsFor_ofInt (h.trans (by decide))
  exact {
    known := hknown
    outermost := houtermost
    unturned := hunturned
    left := hx ▸ hstands hx'
    top := hy ▸ hstands hy'
    width := ⟨_, hw, hstands hw'⟩
    height := ⟨_, hh, hstands hh'⟩
    positive := ⟨Int.cast_pos.mpr hpositive.1, Int.cast_pos.mpr hpositive.2⟩ }

end Page.Document

end Canvasflow
