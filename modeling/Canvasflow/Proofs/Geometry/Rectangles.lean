import Canvasflow.Proofs.Geometry.Crossing

/-!
# Upright rectangles

When two outlines are rectangles with sides along the axes, they overlap exactly if their interiors
have a point in common (`overlap_corners_iff`). Neither test alone is enough. A side of the one
counts as crossing a perpendicular side of the other when the ends lie on its two sides, and an end
on the line itself counts as outside; parallel sides never cross. What this misses is a rectangle
strictly inside the other one, and there the boxes contain each other.
-/

namespace Canvasflow.Geometry

namespace Box

variable {K : Type}

/-- The outline of a box, from its corner along the axis of abscissas. -/
def corners [Add K] (box : Box K) : Polygon K :=
  [⟨box.x, box.y⟩, ⟨box.maxX, box.y⟩, ⟨box.maxX, box.maxY⟩, ⟨box.x, box.maxY⟩]

/-- Whether a point lies inside a box and not on its edge. -/
structure Encloses [Add K] [LT K] (box : Box K) (point : Point K) : Prop where
  left : box.x < point.x
  right : point.x < box.maxX
  top : box.y < point.y
  bottom : point.y < box.maxY

/-- Whether no side separates the boxes and they do not only touch. -/
structure Meets [Add K] [LT K] (box other : Box K) : Prop where
  left : box.x < other.maxX
  right : other.x < box.maxX
  top : box.y < other.maxY
  bottom : other.y < box.maxY

/-- A box with an interior. -/
structure Positive [OfNat K 0] [LT K] (box : Box K) : Prop where
  width : 0 < box.w
  height : 0 < box.h

end Box

section Exact

variable {K : Type} [CommRing K] [LinearOrder K] [IsStrictOrderedRing K] {a b : Box K}

theorem Box.Positive.lt_maxX (h : a.Positive) : a.x < a.maxX :=
  lt_add_of_pos_right _ h.width

theorem Box.Positive.lt_maxY (h : a.Positive) : a.y < a.maxY :=
  lt_add_of_pos_right _ h.height

/-- The box around the corners of a box is the box. -/
theorem Box.Positive.hull_corners (h : a.Positive) : Box.hull a.corners = a := by
  have hx := h.lt_maxX
  have hy := h.lt_maxY
  simp only [Box.hull, Box.corners, List.foldl, Box.lesser, Box.greater, le_refl, not_true,
    or_false, lt_irrefl, hx, hy, hx.not_gt, hy.not_gt, if_true, if_false]
  simp [Box.maxX, Box.maxY]

/-! ## Turns along the sides -/

namespace Polygon

variable {left right top bottom : K} {point : Point K}

/-- Along a side to the right the left turns lead to greater ordinates. -/
theorem leftTurn_rightwards (h : left < right) :
    leftTurn ⟨left, top⟩ ⟨right, top⟩ point = decide (top < point.y) := by
  unfold leftTurn
  rw [decide_eq_decide, sub_self, zero_mul, mul_pos_iff_of_pos_right (sub_pos.mpr h), sub_pos]

theorem leftTurn_leftwards (h : left < right) :
    leftTurn ⟨right, bottom⟩ ⟨left, bottom⟩ point = decide (point.y < bottom) := by
  unfold leftTurn
  rw [decide_eq_decide, sub_self, zero_mul, ← neg_mul_neg, neg_sub, neg_sub,
    mul_pos_iff_of_pos_right (sub_pos.mpr h), sub_pos]

theorem leftTurn_downwards (h : top < bottom) :
    leftTurn ⟨right, top⟩ ⟨right, bottom⟩ point = decide (point.x < right) := by
  unfold leftTurn
  rw [decide_eq_decide, sub_self, mul_zero, ← neg_pos, ← mul_neg, neg_sub,
    mul_pos_iff_of_pos_left (sub_pos.mpr h), sub_pos]

theorem leftTurn_upwards (h : top < bottom) :
    leftTurn ⟨left, bottom⟩ ⟨left, top⟩ point = decide (left < point.x) := by
  unfold leftTurn
  rw [decide_eq_decide, sub_self, mul_zero, ← neg_pos, ← neg_mul, neg_sub,
    mul_pos_iff_of_pos_left (sub_pos.mpr h), sub_pos]

/-- Each of two crossing edges has the ends of the other on its two sides. -/
theorem edgesCross_eq (e f : Point K × Point K) : edgesCross e f =
    ((leftTurn f.1 f.2 e.1 != leftTurn f.1 f.2 e.2) &&
      (leftTurn e.1 e.2 f.1 != leftTurn e.1 e.2 f.2)) := by
  rw [edgesCross, leftTurn_rotate e.1, leftTurn_rotate e.2]

end Polygon

end Exact

/-! ## Intervals -/

section Intervals

variable {K : Type} [LinearOrder K] {p q r : K}

/-- One of two numbers is below a third one and the other is not. -/
theorem below_bne_iff (h : p < q) : (decide (p < r) != decide (q < r)) = true ↔ p < r ∧ r ≤ q := by
  rw [bne_iff_ne, ne_eq, decide_eq_decide]
  grind

theorem below_bne_iff_rev (h : p < q) :
    (decide (q < r) != decide (p < r)) = true ↔ p < r ∧ r ≤ q := by
  rw [bne_comm, below_bne_iff h]

theorem above_bne_iff (h : p < q) : (decide (r < p) != decide (r < q)) = true ↔ p ≤ r ∧ r < q := by
  rw [bne_iff_ne, ne_eq, decide_eq_decide]
  grind

theorem above_bne_iff_rev (h : p < q) :
    (decide (r < q) != decide (r < p)) = true ↔ p ≤ r ∧ r < q := by
  rw [bne_comm, above_bne_iff h]

/-- Whether an end of the second interval lies in the first one. The upper end may be that of the
first interval, and the lower end that of it, but an end does not lie at the other one. -/
def Enters (low high low' high' : K) : Prop :=
  low < high' ∧ high' ≤ high ∨ low ≤ low' ∧ low' < high

variable {low high low' high' : K}

theorem Enters.meets (h : Enters low high low' high') (hlt : low < high) (hlt' : low' < high') :
    low < high' ∧ low' < high := by
  unfold Enters at h
  grind

/-- Where two intervals meet and no end of the second one lies in the first, that is covered. -/
theorem enters_of_not_enters (hleft : low < high') (hright : low' < high)
    (h : ¬ Enters low high low' high') : low' < low ∧ high < high' := by
  unfold Enters at h
  grind

theorem enters_of_covers (h : low' ≤ low) (hlt : low < high) (hright : high < high') :
    Enters low' high' low high := .inr ⟨h, hlt.trans hright⟩

end Intervals

/-! ## Overlapping rectangles -/

section Exact

variable {K : Type} [CommRing K] [LinearOrder K] [IsStrictOrderedRing K] {a b : Box K}

/-- Sides cross when an abscissa of the one rectangle lies between those of the other, and an
ordinate of the other between those of the one. -/
theorem cross_corners_iff (ha : a.Positive) (hb : b.Positive) :
    Polygon.cross a.corners b.corners = true ↔
      Enters a.x a.maxX b.x b.maxX ∧ Enters b.y b.maxY a.y a.maxY ∨
        Enters b.x b.maxX a.x a.maxX ∧ Enters a.y a.maxY b.y b.maxY := by
  have hax := ha.lt_maxX
  have hay := ha.lt_maxY
  have hbx := hb.lt_maxX
  have hby := hb.lt_maxY
  unfold Polygon.cross
  rw [if_neg (by simp [Box.corners])]
  -- a side turns left where a point lies on the inner side of its line
  simp only [Box.corners, Polygon.edges, List.zip, List.zipWith, List.cons_append, List.nil_append,
    List.any_cons, List.any_nil, Polygon.edgesCross_eq, Polygon.leftTurn_rightwards hax,
    Polygon.leftTurn_rightwards hbx, Polygon.leftTurn_leftwards hax, Polygon.leftTurn_leftwards hbx,
    Polygon.leftTurn_downwards hay, Polygon.leftTurn_downwards hby, Polygon.leftTurn_upwards hay,
    Polygon.leftTurn_upwards hby]
  -- the ends of a side are on one side of each line that is parallel to it
  simp only [bne_self_eq_false, Bool.and_false, Bool.or_false, Bool.false_or, Bool.or_eq_true,
    Bool.and_eq_true, below_bne_iff hax, below_bne_iff hay, below_bne_iff hbx, below_bne_iff hby,
    below_bne_iff_rev hax, below_bne_iff_rev hay, below_bne_iff_rev hbx, below_bne_iff_rev hby,
    above_bne_iff hax, above_bne_iff hay, above_bne_iff hbx, above_bne_iff hby,
    above_bne_iff_rev hax, above_bne_iff_rev hay, above_bne_iff_rev hbx, above_bne_iff_rev hby]
  unfold Enters
  grind

omit [IsStrictOrderedRing K] in
theorem contains_iff : a.contains b = true ↔
    a.x ≤ b.x ∧ a.y ≤ b.y ∧ b.maxX ≤ a.maxX ∧ b.maxY ≤ a.maxY := by
  simp only [Box.contains, Bool.and_eq_true, decide_eq_true_iff, and_assoc]

/-- Two rectangles overlap exactly if no side separates them. -/
theorem overlap_corners_iff (ha : a.Positive) (hb : b.Positive) :
    Survey.overlap a.corners b.corners = true ↔ a.Meets b := by
  have hax := ha.lt_maxX
  have hay := ha.lt_maxY
  have hbx := hb.lt_maxX
  have hby := hb.lt_maxY
  simp only [Survey.overlap, Bool.or_eq_true, cross_corners_iff ha hb, ha.hull_corners,
    hb.hull_corners, contains_iff]
  constructor
  · rintro (((⟨hx, hy⟩ | ⟨hx, hy⟩) | ⟨hx, hy, hx', hy'⟩) | ⟨hx, hy, hx', hy'⟩)
    · obtain ⟨hleft, hright⟩ := hx.meets hax hbx
      obtain ⟨htop, hbottom⟩ := hy.meets hby hay
      exact ⟨hleft, hright, hbottom, htop⟩
    · obtain ⟨hleft, hright⟩ := hx.meets hbx hax
      obtain ⟨htop, hbottom⟩ := hy.meets hay hby
      exact ⟨hright, hleft, htop, hbottom⟩
    · exact ⟨hx.trans_lt hbx, hbx.trans_le hx', hy.trans_lt hby, hby.trans_le hy'⟩
    · exact ⟨hax.trans_le hx', hx.trans_lt hax, hay.trans_le hy', hy.trans_lt hay⟩
  · rintro ⟨hleft, hright, htop, hbottom⟩
    -- where sides do not cross, one rectangle covers the other both ways
    by_cases hacross : Enters a.x a.maxX b.x b.maxX
    · by_cases hdown : Enters b.y b.maxY a.y a.maxY
      · exact .inl (.inl (.inl ⟨hacross, hdown⟩))
      · obtain ⟨hy, hy'⟩ := enters_of_not_enters hbottom htop hdown
        by_cases hacross' : Enters b.x b.maxX a.x a.maxX
        · exact .inl (.inl (.inr ⟨hacross', enters_of_covers hy.le hby hy'⟩))
        · obtain ⟨hx, hx'⟩ := enters_of_not_enters hright hleft hacross'
          exact .inl (.inr ⟨hx.le, hy.le, hx'.le, hy'.le⟩)
    · obtain ⟨hx, hx'⟩ := enters_of_not_enters hleft hright hacross
      by_cases hdown : Enters a.y a.maxY b.y b.maxY
      · exact .inl (.inl (.inr ⟨enters_of_covers hx.le hax hx', hdown⟩))
      · obtain ⟨hy, hy'⟩ := enters_of_not_enters htop hbottom hdown
        exact .inr ⟨hx.le, hy.le, hx'.le, hy'.le⟩

omit [IsStrictOrderedRing K] in
/-- Boxes that meet overlap or touch. -/
theorem Box.Meets.collides (h : a.Meets b) : a.collides b = true := by
  simp only [Box.collides, Bool.not_eq_true', Bool.or_eq_false_iff, decide_eq_false_iff_not, not_lt]
  exact ⟨⟨⟨h.left.le, h.right.le⟩, h.top.le⟩, h.bottom.le⟩

omit [IsStrictOrderedRing K] in
theorem Box.Meets.symm (h : a.Meets b) : b.Meets a :=
  ⟨h.right, h.left, h.bottom, h.top⟩

/-- No side separates two rectangles exactly if their interiors have a point in common. -/
theorem exists_enclosed_iff {K : Type} [Field K] [LinearOrder K] [IsStrictOrderedRing K]
    {a b : Box K} (ha : a.Positive) (hb : b.Positive) :
    (∃ point, a.Encloses point ∧ b.Encloses point) ↔ a.Meets b := by
  constructor
  · rintro ⟨point, ha, hb⟩
    exact ⟨ha.left.trans hb.right, hb.left.trans ha.right, ha.top.trans hb.bottom,
      hb.top.trans ha.bottom⟩
  · rintro ⟨hleft, hright, htop, hbottom⟩
    obtain ⟨x, hlow, hhigh⟩ := exists_between
      (max_lt (lt_min ha.lt_maxX hleft) (lt_min hright hb.lt_maxX))
    obtain ⟨y, hlow', hhigh'⟩ := exists_between
      (max_lt (lt_min ha.lt_maxY htop) (lt_min hbottom hb.lt_maxY))
    rw [max_lt_iff] at hlow hlow'
    rw [lt_min_iff] at hhigh hhigh'
    exact ⟨⟨x, y⟩, ⟨hlow.1, hhigh.1, hlow'.1, hhigh'.1⟩, ⟨hlow.2, hhigh.2, hlow'.2, hhigh'.2⟩⟩

end Exact

end Canvasflow.Geometry
