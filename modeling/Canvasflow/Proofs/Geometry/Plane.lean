import Canvasflow.Geometry.Plane
import Canvasflow.Geometry.Polygon
import Canvasflow.Proofs.Geometry.Buckets
import Canvasflow.Proofs.Number.Arithmetic
import Canvasflow.Proofs.Outcome

/-!
# Grids over doubles

A grid over doubles misses nothing either, although quotients and sums are rounded. Rounding is
monotone, so the cell of a greater coordinate is not a lesser one, and the box around an outline
does not extend backwards. With that, two boxes that overlap or touch cover a cell in common
(`exists_mem_of_collides`). Boxes that are equal as doubles, up to the signs of zeros, overlap or
touch the same regions (`collides_congr`).
-/

namespace Canvasflow

namespace Double

open Float.Model Float.Model.UnpackedFloat

variable {x y x' y' : Float}

theorem not_lt_self (x : Float) : ¬ x < x := by
  change ¬ decide (x.toModel.unpack.lt x.toModel.unpack = true) = true
  rcases x.toModel.unpack with ⟨_ | _⟩ | _ | _ | ⟨_ | _, m, e, hm⟩ <;>
    simp [UnpackedFloat.lt, UnpackedFloat.compare]

/-- Finite numbers that are equal are the same, or two zeros. -/
theorem same_of_compare {u v : UnpackedFloat} (hu : u.isFinite = true)
    (h : u.compare v = some .eq) : (∃ s t, u = .zero s ∧ v = .zero t) ∨ u = v := by
  obtain ⟨s, rfl⟩ | ⟨_ | _, m, e, hm, rfl⟩ := finite_cases hu <;>
    rcases v with ⟨_ | _⟩ | _ | t | ⟨_ | _, n, k, hn⟩ <;>
      simp [UnpackedFloat.compare, Ordering.then_eq_eq] at h ⊢
  all_goals exact ⟨h.2, h.1⟩

theorem same_cases (hx : x.isFinite = true) (h : (x == y) = true) :
    (∃ s t, x.toModel.unpack = .zero s ∧ y.toModel.unpack = .zero t) ∨
      x.toModel.unpack = y.toModel.unpack := by
  change (x.toModel.unpack.compare y.toModel.unpack == some .eq) = true at h
  exact same_of_compare hx (eq_of_beq h)

theorem isFinite_of_beq (hx : x.isFinite = true) (h : (x == y) = true) : y.isFinite = true := by
  change y.toModel.unpack.isFinite = true
  obtain ⟨s, t, -, hy⟩ | hsame := same_cases hx h
  · rw [hy]
    rfl
  · rw [← hsame]
    exact hx

/-- A sum with a zero is as finite as the other number. -/
theorem isFinite_zero_add (sign : Sign) {u : UnpackedFloat} (hu : Rounded u)
    (hfinite : u.isFinite = true) :
    (Float.ofModel (.pack (UnpackedFloat.add Format.binary64 (.zero sign) u))).isFinite = true ∧
      (Float.ofModel (.pack (UnpackedFloat.add Format.binary64 u (.zero sign)))).isFinite = true := by
  obtain ⟨t, rfl⟩ | ⟨t, n, k, hn, rfl⟩ := finite_cases hfinite
  · constructor <;> rw [UnpackedFloat.add] <;> split <;> exact isFinite_pack_zero _
  · have hpack := isFinite_pack hu
    exact ⟨hpack, hpack⟩

/-- Equal numbers have equal sums, as long as the sums are finite. -/
theorem add_beq_add (hsum : (x + y).isFinite = true) (hx : (x == x') = true)
    (hy : (y == y') = true) : (x + y == x' + y') = true := by
  obtain ⟨hx', hy'⟩ := isFinite_of_add hsum
  have hfinite : (x' + y').isFinite = true := by
    change (Float.ofModel (.pack (UnpackedFloat.add Format.binary64 x.toModel.unpack
      y.toModel.unpack))).isFinite = true at hsum
    change (Float.ofModel (.pack (UnpackedFloat.add Format.binary64 x'.toModel.unpack
      y'.toModel.unpack))).isFinite = true
    obtain ⟨s, s', -, hzero⟩ | hsame := same_cases hx' hx
    · rw [hzero]
      exact (isFinite_zero_add s' (rounded_unpack y') (isFinite_of_beq hy' hy)).1
    · obtain ⟨t, t', -, hzero⟩ | hsame' := same_cases hy' hy
      · rw [hzero]
        exact (isFinite_zero_add t' (rounded_unpack x') (isFinite_of_beq hx' hx)).2
      · rwa [← hsame, ← hsame']
  rw [beq_iff_value hsum hfinite, value_add hsum, value_add hfinite,
    (beq_iff_value hx' (isFinite_of_beq hx' hx)).mp hx,
    (beq_iff_value hy' (isFinite_of_beq hy' hy)).mp hy]

/-- Equal numbers have equally finite quotients. -/
theorem isFinite_div_of_beq {z : Float} (hquotient : (x / z).isFinite = true)
    (h : (x == x') = true) : (x' / z).isFinite = true := by
  have hsize := (finite_of_div (isFinite_of_pack hquotient)).2
  change (Float.ofModel (.pack (UnpackedFloat.div Format.binary64 x'.toModel.unpack
    z.toModel.unpack))).isFinite = true
  obtain ⟨s, t, -, hzero⟩ | hsame := same_cases (isFinite_of_div hquotient) h
  · rw [hzero]
    obtain ⟨hfinite, hne⟩ | ⟨sign, hinfinite⟩ := hsize
    · obtain ⟨sign, hz⟩ | ⟨sign, m, e, hm, hz⟩ := finite_cases hfinite
      · rw [hz, valueOf_zero] at hne
        exact absurd rfl hne
      · rw [hz]
        exact isFinite_pack_zero _
    · rw [hinfinite]
      exact isFinite_pack_zero _
  · rw [← hsame]
    exact hquotient

theorem lt_congr (hx : x.isFinite = true) (hy : y.isFinite = true) (hxx : (x == x') = true)
    (hyy : (y == y') = true) : x < y ↔ x' < y' := by
  have hx' := isFinite_of_beq hx hxx
  have hy' := isFinite_of_beq hy hyy
  rw [lt_iff_value hx hy, lt_iff_value hx' hy', (beq_iff_value hx hx').mp hxx,
    (beq_iff_value hy hy').mp hyy]

end Double

namespace Geometry

open Double GridIndex

variable {box other region : Box Float} {size : Float} {covered : List Cell}

/-! ## Cells of boxes of doubles -/

theorem isFinite_of_floor {x : Float} {n : ℤ} (h : Floored.floor x = .ok n) :
    x.isFinite = true ∧ n = ⌊value x⌋ := by
  cases hfloor : floor? x with
  | none => simp [Floored.floor, hfloor] at h
  | some whole =>
    have hfinite : x.isFinite = true := by
      rw [isFinite_iff]
      cases hview : view x with
      | finite negative m e => exact ⟨negative, m, e, rfl⟩
      | _ => simp [floor?, truncate?, hview] at hfloor
    have hn : whole = n := by simpa [Floored.floor, hfloor] using h
    rw [floor?_eq hfinite, hn] at hfloor
    exact ⟨hfinite, (Option.some.inj hfloor).symm⟩

/-- A greater coordinate does not lie in a lesser column. -/
theorem floor_div_mono {x y : Float} {m n : ℤ} (hsize : ¬ size ≤ 0)
    (hx : Floored.floor (x / size) = .ok m) (hy : Floored.floor (y / size) = .ok n)
    (h : ¬ y < x) : m ≤ n := by
  obtain ⟨hfinite, rfl⟩ := isFinite_of_floor hx
  obtain ⟨hfinite', rfl⟩ := isFinite_of_floor hy
  exact Int.floor_le_floor (value_div_mono hsize hfinite hfinite' h)

/-- The cells that a box covers, by their columns and rows. -/
theorem mem_of_cells {K : Type} [Add K] [Div K] [Floored K] {size : K} {box : Box K}
    {covered : List Cell} (h : cells size box = .ok covered) :
    ∃ left top right bottom, Floored.floor (box.x / size) = .ok left ∧
      Floored.floor (box.y / size) = .ok top ∧ Floored.floor (box.maxX / size) = .ok right ∧
      Floored.floor (box.maxY / size) = .ok bottom ∧
      ∀ column row, (column, row) ∈ covered ↔
        (left ≤ column ∧ column ≤ right) ∧ top ≤ row ∧ row ≤ bottom := by
  obtain ⟨left, hleft, h⟩ := bind_eq_ok_iff.mp h
  obtain ⟨top, htop, h⟩ := bind_eq_ok_iff.mp h
  obtain ⟨right, hright, h⟩ := bind_eq_ok_iff.mp h
  obtain ⟨bottom, hbottom, h⟩ := bind_eq_ok_iff.mp h
  cases h
  refine ⟨left, top, right, bottom, hleft, htop, hright, hbottom, fun column row => ?_⟩
  simp [mem_integersFrom]

/-- A box whose sides are finite numbers. -/
structure Box.Finite (box : Box Float) : Prop where
  left : box.x.isFinite = true
  right : box.maxX.isFinite = true
  top : box.y.isFinite = true
  bottom : box.maxY.isFinite = true

theorem finite_of_cells (h : cells size box = .ok covered) : box.Finite := by
  obtain ⟨_, _, _, _, hleft, htop, hright, hbottom, _⟩ := mem_of_cells h
  exact ⟨isFinite_of_div (isFinite_of_floor hleft).1, isFinite_of_div (isFinite_of_floor hright).1,
    isFinite_of_div (isFinite_of_floor htop).1, isFinite_of_div (isFinite_of_floor hbottom).1⟩

/-- A box that does not extend backwards. -/
structure Box.Forward (box : Box Float) : Prop where
  width : ¬ box.maxX < box.x
  height : ¬ box.maxY < box.y

/-- Boxes that overlap or touch cover a cell in common. -/
theorem exists_mem_of_collides (hsize : ¬ size ≤ 0) {met : List Cell}
    (hcovered : cells size box = .ok covered) (hmet : cells size region = .ok met)
    (hbox : box.Forward) (hregion : region.Forward) (h : box.collides region) :
    ∃ cell ∈ met, cell ∈ covered := by
  obtain ⟨left, top, right, bottom, hleft, htop, hright, hbottom, hmem⟩ := mem_of_cells hcovered
  obtain ⟨left', top', right', bottom', hleft', htop', hright', hbottom', hmem'⟩ :=
    mem_of_cells hmet
  simp only [Box.collides, Bool.not_eq_true', Bool.or_eq_false_iff, decide_eq_false_iff_not] at h
  obtain ⟨⟨⟨hxx, hxx'⟩, hyy⟩, hyy'⟩ := h
  have hcolumns := floor_div_mono hsize hleft hright hbox.width
  have hcolumns' := floor_div_mono hsize hleft' hright' hregion.width
  have hrows := floor_div_mono hsize htop hbottom hbox.height
  have hrows' := floor_div_mono hsize htop' hbottom' hregion.height
  have hacross := floor_div_mono hsize hleft hright' hxx
  have hacross' := floor_div_mono hsize hleft' hright hxx'
  have hdown := floor_div_mono hsize htop hbottom' hyy
  have hdown' := floor_div_mono hsize htop' hbottom hyy'
  refine ⟨(max left left', max top top'), (hmem' _ _).mpr ?_, (hmem _ _).mpr ?_⟩ <;> omega

/-! ## Boxes around outlines -/

/-- The greatest coordinates around some points are not below the least ones. -/
theorem hull_fold (rest : List (Point Float)) {least greatest : Point Float}
    (hx : ¬ greatest.x < least.x) (hy : ¬ greatest.y < least.y) :
    let low := rest.foldl (fun p q => ⟨Box.lesser p.x q.x, Box.lesser p.y q.y⟩) least
    let high := rest.foldl (fun p q => ⟨Box.greater p.x q.x, Box.greater p.y q.y⟩) greatest
    ¬ high.x < low.x ∧ ¬ high.y < low.y := by
  have hstep {low high : Float} (h : ¬ high < low) (next : Float) :
      ¬ Box.greater high next < Box.lesser low next := by
    unfold Box.greater Box.lesser
    split_ifs with hgreater hlesser
    · exact not_lt_self next
    · exact fun hlt => hlesser (.inl hlt)
    · exact fun hlt => hgreater (.inl hlt)
    · exact h
  induction rest generalizing least greatest with
  | nil => exact ⟨hx, hy⟩
  | cons next rest ih => exact ih (hstep hx next.x) (hstep hy next.y)

/-- The box around an outline does not extend backwards if its sides are finite. -/
theorem forward_hull (outline : Polygon Float) (h : (Box.hull outline).Finite) :
    (Box.hull outline).Forward := by
  cases outline with
  | nil => exact ⟨by decide, by decide⟩
  | cons first rest =>
    obtain ⟨hx, hy⟩ := hull_fold rest (not_lt_self first.x) (not_lt_self first.y)
    exact ⟨not_add_sub_lt hx h.right, not_add_sub_lt hy h.bottom⟩

/-! ## Equal boxes -/

theorem beq_self {x : Float} (hx : x.isFinite = true) : (x == x) = true :=
  (beq_iff_value hx hx).mpr rfl

theorem Box.Finite.beq_self (h : box.Finite) : (box == box) = true := by
  have hparts : (box.x == box.x && (box.y == box.y && (box.w == box.w && box.h == box.h))) =
      true := by
    simp only [Bool.and_eq_true]
    exact ⟨Geometry.beq_self h.left, Geometry.beq_self h.top,
      Geometry.beq_self (isFinite_of_add h.right).2, Geometry.beq_self (isFinite_of_add h.bottom).2⟩
  exact hparts

/-- A box with finite sides and one that equals it have equal sides. -/
theorem sides_of_beq (hbox : box.Finite) (h : (box == other) = true) :
    (box.x == other.x) = true ∧ (box.maxX == other.maxX) = true ∧
      (box.y == other.y) = true ∧ (box.maxY == other.maxY) = true := by
  have hparts : (box.x == other.x && (box.y == other.y && (box.w == other.w && box.h == other.h))) =
      true := h
  simp only [Bool.and_eq_true] at hparts
  obtain ⟨hx, hy, hw, hh⟩ := hparts
  exact ⟨hx, add_beq_add hbox.right hx hw, hy, add_beq_add hbox.bottom hy hh⟩

theorem Box.Forward.congr (hforward : other.Forward) (hbox : box.Finite)
    (h : (box == other) = true) : box.Forward := by
  obtain ⟨hleft, hright, htop, hbottom⟩ := sides_of_beq hbox h
  exact ⟨(lt_congr hbox.right hbox.left hright hleft).not.mpr hforward.width,
    (lt_congr hbox.bottom hbox.top hbottom htop).not.mpr hforward.height⟩

/-- The cells of a box that equals one with cells can be told, too. -/
theorem cells_of_beq (hcovered : cells size box = .ok covered) (h : (box == other) = true) :
    ∃ met, cells size other = .ok met := by
  obtain ⟨hleft, hright, htop, hbottom⟩ := sides_of_beq (finite_of_cells hcovered) h
  obtain ⟨_, _, _, _, hleft', htop', hright', hbottom', _⟩ := mem_of_cells hcovered
  have hfloor {x y : Float} {n : ℤ} (hx : Floored.floor (x / size) = .ok n)
      (hxy : (x == y) = true) : Floored.floor (y / size) = .ok ⌊value (y / size)⌋ := by
    have hfinite := isFinite_div_of_beq (isFinite_of_floor hx).1 hxy
    simp [Floored.floor, floor?_eq hfinite]
  exact ⟨_, bind_eq_ok_iff.mpr ⟨_, hfloor hleft' hleft, bind_eq_ok_iff.mpr
    ⟨_, hfloor htop' htop, bind_eq_ok_iff.mpr ⟨_, hfloor hright' hright, bind_eq_ok_iff.mpr
      ⟨_, hfloor hbottom' hbottom, rfl⟩⟩⟩⟩⟩

/-- Equal boxes overlap or touch the same regions. -/
theorem collides_congr (hbox : box.Finite) (hregion : region.Finite) (h : (box == other) = true) :
    box.collides region = other.collides region := by
  obtain ⟨hleft, hright, htop, hbottom⟩ := sides_of_beq hbox h
  simp only [Box.collides,
    lt_congr hregion.right hbox.left (beq_self hregion.right) hleft,
    lt_congr hbox.right hregion.left hright (beq_self hregion.left),
    lt_congr hregion.bottom hbox.top (beq_self hregion.bottom) htop,
    lt_congr hbox.bottom hregion.top hbottom (beq_self hregion.top)]

end Geometry

end Canvasflow
