import Canvasflow.Proofs.Geometry.Crossing
import Canvasflow.Proofs.Number.Arithmetic

/-!
# Exact coordinates

A point with finite doubles for coordinates stands for a point with exact ones. Where no difference
of coordinates is rounded, and no product of two differences as they occur in a turn (`Exact`),
tests of outlines come out as for the exact points (`overlap_exact`). Whole coordinates that are not
large are exact in this sense (`exact_of_whole`).
-/

namespace Canvasflow.Geometry

open Double

/-- The point that a point with finite coordinates stands for. -/
def Point.exact (point : Point Float) : Point ℚ :=
  ⟨value point.x, value point.y⟩

/-- Whether coordinates, their differences, and the products in turns are values of doubles. -/
structure Exact (points : List (Point ℚ)) : Prop where
  coordinates : ∀ p ∈ points, Representable p.x ∧ Representable p.y
  differences : ∀ p ∈ points, ∀ q ∈ points,
    Representable (q.x - p.x) ∧ Representable (q.y - p.y)
  products : ∀ p ∈ points, ∀ q ∈ points, ∀ r ∈ points,
    Representable ((q.y - p.y) * (r.x - p.x))

/-- Whether the turns computed around three of the points are those of the exact points. -/
def ExactTurns (points : List (Point Float)) : Prop :=
  ∀ a ∈ points, ∀ b ∈ points, ∀ c ∈ points,
    Polygon.leftTurn a b c = Polygon.leftTurn a.exact b.exact c.exact

/-- Exact turns do not depend on the point where they start. -/
theorem ExactTurns.turnsAgree {points : List (Point Float)} (h : ExactTurns points) :
    Polygon.TurnsAgree points := by
  intro a ha b hb c hc
  rw [h a ha b hb c hc, h b hb c hc a ha, Polygon.leftTurn_rotate]

/-- A point with finite coordinates. -/
structure Point.Finite (point : Point Float) : Prop where
  x : point.x.isFinite = true
  y : point.y.isFinite = true

theorem Point.Finite.standsFor_x {point : Point Float} (h : point.Finite) :
    StandsFor point.x point.exact.x := ⟨h.x, rfl⟩

theorem Point.Finite.standsFor_y {point : Point Float} (h : point.Finite) :
    StandsFor point.y point.exact.y := ⟨h.y, rfl⟩

section Exactness

variable {points : List (Point Float)}

/-- Turns of exact coordinates are exact. -/
theorem Exact.turns (h : Exact (points.map Point.exact)) (hfinite : ∀ p ∈ points, p.Finite) :
    ExactTurns points := by
  have hmem {p : Point Float} (hp : p ∈ points) : p.exact ∈ points.map Point.exact :=
    List.mem_map_of_mem hp
  have hproduct {p q r : Point Float} (hp : p ∈ points) (hq : q ∈ points) (hr : r ∈ points) :
      StandsFor ((q.y - p.y) * (r.x - p.x))
        ((q.exact.y - p.exact.y) * (r.exact.x - p.exact.x)) :=
    .mul (.sub (hfinite q hq).standsFor_y (hfinite p hp).standsFor_y
        (h.differences _ (hmem hp) _ (hmem hq)).2)
      (.sub (hfinite r hr).standsFor_x (hfinite p hp).standsFor_x
        (h.differences _ (hmem hp) _ (hmem hr)).1)
      (h.products _ (hmem hp) _ (hmem hq) _ (hmem hr))
  intro a ha b hb c hc
  unfold Polygon.leftTurn
  rw [decide_eq_decide, (hproduct ha hb hc).lt_iff (hproduct ha hc hb)]

theorem edges_map {K L : Type} (f : Point K → Point L) (outline : Polygon K) :
    Polygon.edges (outline.map f) = outline.edges.map (Prod.map f f) := by
  cases outline with
  | nil => rfl
  | cons first rest =>
    have hmap : rest.map f ++ [f first] = (rest ++ [first]).map f := by simp
    rw [List.map_cons, Polygon.edges, Polygon.edges, hmap, ← List.map_cons, List.zip_map]

/-- Crossing is exact where turns are. -/
theorem cross_exact {a b : Polygon Float} (h : ExactTurns (a ++ b)) :
    Polygon.cross a b = Polygon.cross (a.map Point.exact) (b.map Point.exact) := by
  have hedges {e f : Point Float × Point Float} (he : e ∈ a.edges) (hf : f ∈ b.edges) :
      Polygon.edgesCross e f =
        Polygon.edgesCross (Prod.map Point.exact Point.exact e)
          (Prod.map Point.exact Point.exact f) := by
    obtain ⟨he₁, he₂⟩ := Polygon.mem_of_mem_edges he
    obtain ⟨hf₁, hf₂⟩ := Polygon.mem_of_mem_edges hf
    replace he₁ := List.mem_append_left b he₁
    replace he₂ := List.mem_append_left b he₂
    replace hf₁ := List.mem_append_right a hf₁
    replace hf₂ := List.mem_append_right a hf₂
    simp only [Polygon.edgesCross, Prod.map, h _ he₁ _ hf₁ _ hf₂, h _ he₂ _ hf₁ _ hf₂,
      h _ he₁ _ he₂ _ hf₁, h _ he₁ _ he₂ _ hf₂]
  unfold Polygon.cross
  rw [edges_map, edges_map, List.length_map, List.length_map]
  split_ifs
  · rfl
  · rw [List.any_map, Bool.eq_iff_iff, List.any_eq_true, List.any_eq_true]
    simp only [Function.comp_apply, List.any_map, List.any_eq_true]
    refine exists_congr fun e => and_congr_right fun he => exists_congr fun f =>
      and_congr_right fun hf => ?_
    rw [hedges he hf]

end Exactness

/-! ## Boxes around exact outlines -/

/-- Whether a box has the given exact sides. -/
structure Box.StandsFor (box : Box Float) (exact : Box ℚ) : Prop where
  left : Double.StandsFor box.x exact.x
  right : Double.StandsFor box.maxX exact.maxX
  top : Double.StandsFor box.y exact.y
  bottom : Double.StandsFor box.maxY exact.maxY

section Boxes

theorem lesser_eq_or (a b : Float) : Box.lesser a b = a ∨ Box.lesser a b = b := by
  unfold Box.lesser
  split_ifs <;> simp

theorem greater_eq_or (a b : Float) : Box.greater a b = a ∨ Box.greater a b = b := by
  unfold Box.greater
  split_ifs <;> simp

theorem value_lesser {a b : Float} (ha : a.isFinite = true) (hb : b.isFinite = true) :
    value (Box.lesser a b) = Box.lesser (value a) (value b) := by
  unfold Box.lesser
  simp only [lt_iff_value hb ha, le_iff_value hb hb]
  split_ifs <;> rfl

theorem value_greater {a b : Float} (ha : a.isFinite = true) (hb : b.isFinite = true) :
    value (Box.greater a b) = Box.greater (value a) (value b) := by
  unfold Box.greater
  simp only [lt_iff_value ha hb, le_iff_value hb hb]
  split_ifs <;> rfl

/-- An extreme point has coordinates of the points, and is that of the exact points. -/
theorem fold_exact {pick : Float → Float → Float} {pick' : ℚ → ℚ → ℚ}
    (hone : ∀ a b, pick a b = a ∨ pick a b = b)
    (hvalue : ∀ a b, a.isFinite = true → b.isFinite = true →
      value (pick a b) = pick' (value a) (value b))
    {across down : Float → Prop} (hacross : ∀ x, across x → x.isFinite = true)
    (hdown : ∀ y, down y → y.isFinite = true) {first : Point Float} {rest : List (Point Float)}
    (hmem : ∀ p ∈ first :: rest, across p.x ∧ down p.y) :
    let found := rest.foldl (fun p q => ⟨pick p.x q.x, pick p.y q.y⟩) first
    across found.x ∧ down found.y ∧ found.exact =
      (rest.map Point.exact).foldl (fun p q => ⟨pick' p.x q.x, pick' p.y q.y⟩) first.exact := by
  induction rest generalizing first with
  | nil =>
    obtain ⟨hx, hy⟩ := hmem first (by simp)
    exact ⟨hx, hy, rfl⟩
  | cons next rest ih =>
    obtain ⟨hfirst, hmem⟩ := List.forall_mem_cons.mp hmem
    obtain ⟨hnext, hrest⟩ := List.forall_mem_cons.mp hmem
    have hx : across (pick first.x next.x) := by
      rcases hone first.x next.x with h | h <;> rw [h]
      · exact hfirst.1
      · exact hnext.1
    have hy : down (pick first.y next.y) := by
      rcases hone first.y next.y with h | h <;> rw [h]
      · exact hfirst.2
      · exact hnext.2
    have hpicked : ∀ p ∈ (⟨pick first.x next.x, pick first.y next.y⟩ : Point Float) :: rest,
        across p.x ∧ down p.y := List.forall_mem_cons.mpr ⟨⟨hx, hy⟩, hrest⟩
    obtain ⟨hx', hy', hexact⟩ := ih hpicked
    refine ⟨hx', hy', hexact.trans ?_⟩
    simp only [Point.exact, List.map_cons, List.foldl_cons,
      hvalue _ _ (hacross _ hfirst.1) (hacross _ hnext.1),
      hvalue _ _ (hdown _ hfirst.2) (hdown _ hnext.2)]

/-- A side is where it is computed, from the other side and their distance. -/
theorem standsFor_add_sub {x y : Float} {p q : ℚ} (hx : Double.StandsFor x p)
    (hy : Double.StandsFor y q) (h : Representable (q - p)) :
    Double.StandsFor (x + (y - x)) (p + (q - p)) :=
  hx.add (hy.sub hx h) (by rw [add_sub_cancel]; exact hy.representable)

/-- The box around exact points is the box around the points they stand for. -/
theorem Exact.hull {points : List (Point Float)} (h : Exact (points.map Point.exact))
    (hfinite : ∀ p ∈ points, p.Finite) :
    (Box.hull points).StandsFor (Box.hull (points.map Point.exact)) := by
  cases points with
  | nil =>
    have hzero : Double.StandsFor 0 0 := ⟨by decide, value_zero⟩
    have hright : Double.StandsFor ((0 : Float) + 0) (0 + 0) := by
      rwa [add_zero, show (0 : Float) + 0 = 0 by decide]
    exact ⟨hzero, hright, hzero, hright⟩
  | cons first rest =>
    have hmem : ∀ p ∈ first :: rest, (∃ q ∈ first :: rest, q.x = p.x) ∧
        ∃ q ∈ first :: rest, q.y = p.y := fun p hp => ⟨⟨p, hp, rfl⟩, ⟨p, hp, rfl⟩⟩
    have hacross : ∀ x, (∃ q ∈ first :: rest, q.x = x) → x.isFinite = true := by
      rintro _ ⟨q, hq, rfl⟩
      exact (hfinite q hq).x
    have hdown : ∀ y, (∃ q ∈ first :: rest, q.y = y) → y.isFinite = true := by
      rintro _ ⟨q, hq, rfl⟩
      exact (hfinite q hq).y
    obtain ⟨⟨p, hp, hleft⟩, ⟨p', hp', htop⟩, hleast⟩ :=
      fold_exact lesser_eq_or (fun a b => value_lesser) hacross hdown hmem
    obtain ⟨⟨q, hq, hright⟩, ⟨q', hq', hbottom⟩, hgreatest⟩ :=
      fold_exact greater_eq_or (fun a b => value_greater) hacross hdown hmem
    have hmaxX := standsFor_add_sub (hfinite p hp).standsFor_x (hfinite q hq).standsFor_x
      (h.differences _ (List.mem_map_of_mem hp) _ (List.mem_map_of_mem hq)).1
    have hmaxY := standsFor_add_sub (hfinite p' hp').standsFor_y (hfinite q' hq').standsFor_y
      (h.differences _ (List.mem_map_of_mem hp') _ (List.mem_map_of_mem hq')).2
    simp only [Point.exact, hleft, hright] at hmaxX
    simp only [Point.exact, htop, hbottom] at hmaxY
    rw [Box.hull, List.map_cons, Box.hull, ← hleast, ← hgreatest]
    exact ⟨⟨hacross _ ⟨p, hp, hleft⟩, rfl⟩, hmaxX, ⟨hdown _ ⟨p', hp', htop⟩, rfl⟩, hmaxY⟩

variable {box other : Box Float} {exact exact' : Box ℚ}

theorem Box.StandsFor.contains_eq (h : box.StandsFor exact) (h' : other.StandsFor exact') :
    box.contains other = exact.contains exact' := by
  simp only [Box.contains, h.left.le_iff h'.left, h.top.le_iff h'.top, h'.right.le_iff h.right,
    h'.bottom.le_iff h.bottom]

theorem Box.StandsFor.collides_eq (h : box.StandsFor exact) (h' : other.StandsFor exact') :
    box.collides other = exact.collides exact' := by
  simp only [Box.collides, h'.right.lt_iff h.left, h.right.lt_iff h'.left, h'.bottom.lt_iff h.top,
    h.bottom.lt_iff h'.top]

end Boxes

section Outlines

variable {a b : Polygon Float}

theorem Exact.sublist {points others : List (Point ℚ)} (h : Exact points) (hsub : others ⊆ points) :
    Exact others where
  coordinates p hp := h.coordinates p (hsub hp)
  differences p hp q hq := h.differences p (hsub hp) q (hsub hq)
  products p hp q hq r hr := h.products p (hsub hp) q (hsub hq) r (hsub hr)

/-- Exact outlines overlap exactly if the outlines they stand for do. -/
theorem overlap_exact (h : Exact ((a ++ b).map Point.exact)) (hfinite : ∀ p ∈ a ++ b, p.Finite) :
    Survey.overlap a b = Survey.overlap (a.map Point.exact) (b.map Point.exact) := by
  have hturns := h.turns hfinite
  rw [List.map_append] at h
  have ha := (h.sublist (List.subset_append_left _ _)).hull
    fun p hp => hfinite p (List.mem_append_left _ hp)
  have hb := (h.sublist (List.subset_append_right _ _)).hull
    fun p hp => hfinite p (List.mem_append_right _ hp)
  rw [Survey.overlap, Survey.overlap, cross_exact hturns, ha.contains_eq hb, hb.contains_eq ha]

/-- The boxes around exact outlines overlap or touch exactly if those around the outlines they stand
for do. -/
theorem collides_exact (h : Exact ((a ++ b).map Point.exact)) (hfinite : ∀ p ∈ a ++ b, p.Finite) :
    (Box.hull a).collides (Box.hull b) =
      (Box.hull (a.map Point.exact)).collides (Box.hull (b.map Point.exact)) := by
  rw [List.map_append] at h
  have ha := (h.sublist (List.subset_append_left _ _)).hull
    fun p hp => hfinite p (List.mem_append_left _ hp)
  have hb := (h.sublist (List.subset_append_right _ _)).hull
    fun p hp => hfinite p (List.mem_append_right _ hp)
  exact ha.collides_eq hb

end Outlines

/-- Whole coordinates of at most 25 binary digits are exact. -/
theorem exact_of_whole {points : List (Point ℚ)}
    (h : ∀ p ∈ points, ∃ m n : ℤ, p = ⟨m, n⟩ ∧ m.natAbs < 2 ^ 25 ∧ n.natAbs < 2 ^ 25) :
    Exact points := by
  have hbelow {z : ℤ} {k : ℕ} (hk : k ≤ 53) (hz : z.natAbs < 2 ^ k) : Representable z :=
    (standsFor_ofInt (hz.trans_le (Nat.pow_le_pow_right two_pos hk))).representable
  refine ⟨fun p hp => ?_, fun p hp q hq => ?_, fun p hp q hq r hr => ?_⟩
  · obtain ⟨m, n, rfl, hm, hn⟩ := h p hp
    exact ⟨hbelow (by decide) hm, hbelow (by decide) hn⟩
  · obtain ⟨m, n, rfl, hm, hn⟩ := h p hp
    obtain ⟨m', n', rfl, hm', hn'⟩ := h q hq
    have hacross : Representable ((m' - m : ℤ) : ℚ) := hbelow (k := 26) (by decide) (by omega)
    have hdown : Representable ((n' - n : ℤ) : ℚ) := hbelow (k := 26) (by decide) (by omega)
    push_cast at hacross hdown
    exact ⟨hacross, hdown⟩
  · obtain ⟨m, n, rfl, hm, hn⟩ := h p hp
    obtain ⟨m', n', rfl, hm', hn'⟩ := h q hq
    obtain ⟨m'', n'', rfl, hm'', hn''⟩ := h r hr
    have hproduct : Representable (((n' - n) * (m'' - m) : ℤ) : ℚ) := by
      refine hbelow (k := 52) (by decide) ?_
      rw [Int.natAbs_mul]
      calc (n' - n).natAbs * (m'' - m).natAbs < 2 ^ 26 * 2 ^ 26 :=
            Nat.mul_lt_mul'' (by omega) (by omega)
        _ = 2 ^ 52 := by norm_num
    push_cast at hproduct
    exact hproduct

end Canvasflow.Geometry
