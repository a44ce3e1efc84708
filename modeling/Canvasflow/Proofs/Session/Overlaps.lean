import Canvasflow.Proofs.Page.Upright
import Canvasflow.Proofs.Session.Surveying

/-!
# What overlaps on a page

A page is surveyed without an index or with one that mirrors it, and the answers are the same. Of
two shapes that are no connectors each is reported from the other one or neither is, whatever their
places, as long as no turn is rounded to another direction (`reports_symmetric`). Of two upright
shapes the one is reported from the other exactly if their interiors meet (`upright_overlaps_iff`).
-/

namespace Canvasflow.Page.Document

open Canvasflow.Geometry Canvasflow.Geometry.GridIndex Double

/-- The ways in which a page is surveyed: without an index, or with one that mirrors the page,
however it came about. -/
inductive Surveyed (document : Document) : Option (GridIndex Float) → Prop
  | scan : document.Surveyed none
  | index {size : Float} (hsize : ¬ size ≤ 0) (changes : List (Change Float))
      (hmirrored : ∀ id, document.Mirrored ((GridIndex.empty size).after changes) id) :
      document.Surveyed (some ((GridIndex.empty size).after changes))

variable {document : Document} {index? : Option (GridIndex Float)} {connectorType : String}
  {first second : Shape}

/-- The answer does not depend on the way. -/
theorem Sound.overlapping_eq_scan (h : document.Sound) (hsurveyed : document.Surveyed index?)
    (connectorType : String) (source : Option String) :
    (document.survey index?).overlapping connectorType source =
      (document.survey none).overlapping connectorType source := by
  cases hsurveyed with
  | scan => rfl
  | @index size hsize changes hmirrored =>
    obtain ⟨hplaced, hcellSize⟩ := (placed_empty size).after changes
    obtain ⟨sites, hindex, hscan, -⟩ := h.nearby_agrees (by rwa [hcellSize]) hplaced hmirrored
      Survey.overlap (fun other => other.type ≠ connectorType) source
    rw [overlapping_eq_nearby, overlapping_eq_nearby, hindex, hscan]

/-- A shape as a site. -/
def site (document : Document) (shape : Shape) : Site Float :=
  ⟨shape.id, shape.type, ⟨shape.x, shape.y⟩, document.outline shape⟩

theorem Sound.site_mem (h : document.Sound) (hshape : document.shape? first.id = some first) :
    document.site first ∈ (document.survey index?).sites :=
  h.site_iff.mpr ⟨first, hshape, rfl⟩

theorem Sound.identified (h : document.Sound) : (document.survey index?).Identified := by
  intro a ha b hb hid
  obtain ⟨shape, hshape, rfl⟩ := h.site_iff.mp ha
  obtain ⟨other, hother, rfl⟩ := h.site_iff.mp hb
  change shape.id = other.id at hid
  change document.shape? other.id = some other at hother
  rw [← hid] at hother
  obtain rfl : shape = other := Option.some.inj (hshape.symm.trans hother)
  rfl

/-- Reports on a page do not depend on the way. -/
theorem Sound.reports_iff_scan (h : document.Sound) (hsurveyed : document.Surveyed index?)
    (source other : String) : (document.survey index?).Reports connectorType source other ↔
      (document.survey none).Reports connectorType source other := by
  unfold Survey.Reports
  rw [h.overlapping_eq_scan hsurveyed]

/-- Of two upright shapes with exact corners, outlines overlap and boxes collide as the boxes that
the shapes fill meet. -/
theorem upright_meets_iff {a b : Box ℚ} (ha : document.Upright first a)
    (hb : document.Upright second b) (hexact : Exact (a.corners ++ b.corners)) :
    (∃ outline other, document.outline first = .ok outline ∧ document.outline second = .ok other ∧
      (Box.hull other).collides (Box.hull outline) = true ∧ Survey.overlap outline other = true) ↔
    a.Meets b := by
  obtain ⟨outline, houtline, hfinite, hcorners⟩ :=
    ha.outline_exact (hexact.sublist (List.subset_append_left _ _))
  obtain ⟨other, hother, hfinite', hcorners'⟩ :=
    hb.outline_exact (hexact.sublist (List.subset_append_right _ _))
  have hall : ∀ p ∈ outline ++ other, p.Finite := by
    simpa only [List.forall_mem_append] using ⟨hfinite, hfinite'⟩
  have hexact' : Exact ((outline ++ other).map Point.exact) := by
    rwa [List.map_append, hcorners, hcorners']
  have hcollides : (Box.hull other).collides (Box.hull outline) = b.collides a := by
    rw [Box.collides_comm, collides_exact hexact' hall, hcorners, hcorners',
      ha.positive.hull_corners, hb.positive.hull_corners, Box.collides_comm]
  have hoverlap : Survey.overlap outline other = true ↔ a.Meets b := by
    rw [overlap_exact hexact' hall, hcorners, hcorners',
      overlap_corners_iff ha.positive hb.positive]
  constructor
  · rintro ⟨_, _, hsame, hsame', -, hfound⟩
    cases houtline.symm.trans hsame
    cases hother.symm.trans hsame'
    exact hoverlap.mp hfound
  · intro hmeets
    exact ⟨outline, other, houtline, hother, hcollides.trans hmeets.symm.collides,
      hoverlap.mpr hmeets⟩

/-! ## A page of squares -/

/-- A page with three squares. The second one covers a corner of the first, and the third one shares
a side with the first. -/
def squares : Document :=
  let sides : Entries Data := [("w", .int 10), ("h", .int 10)]
  let first := ((empty ⟨"arrow", "", ""⟩).create { type := "geo", id := "a", props := sides }).2
  let second := (first.create
    { type := "geo", x := .int 5, y := .int 5, id := "b", props := sides }).2
  (second.create { type := "geo", x := .int 10, id := "c", props := sides }).2

/-- A square of the page. -/
def square (id : String) : Shape :=
  (squares.shape? id).getD default

theorem squares_sound : squares.Sound :=
  (((Sound.empty _).created _).created _).created _

theorem squares_upright : squares.Upright (square "a") (wholeBox ⟨0, 0, 10, 10⟩) ∧
    squares.Upright (square "b") (wholeBox ⟨5, 5, 10, 10⟩) ∧
    squares.Upright (square "c") (wholeBox ⟨10, 0, 10, 10⟩) := by
  refine ⟨?_, ?_, ?_⟩ <;>
    exact upright_of_whole rfl rfl (by decide) rfl rfl rfl rfl
      (by decide) (by decide)

theorem squares_measured (id : String) (shape : Shape) (h : squares.shape? id = some shape) :
    ∃ outline, squares.outline shape = .ok outline := by
  have hkeys : Entries.keys squares.shapes = ["a", "b", "c"] := by decide
  have hid : id ∈ ["a", "b", "c"] := by
    rw [← hkeys, ← Entries.has_iff_mem_keys]
    exact Option.isSome_iff_exists.mpr ⟨shape, h⟩
  have hshape : square id = shape := by rw [square, h, Option.getD_some]
  have hmeasured {box : Box ℤ} (hupright : squares.Upright (square id) (wholeBox box))
      (hsmall : Small box) : ∃ outline, squares.outline shape = .ok outline := by
    obtain ⟨outline, houtline, -⟩ := hupright.outline_exact
      ((exact_corners hsmall hsmall).sublist (List.subset_append_left _ _))
    exact ⟨outline, hshape ▸ houtline⟩
  obtain ⟨ha, hb, hc⟩ := squares_upright
  simp only [List.mem_cons, List.not_mem_nil, or_false] at hid
  rcases hid with rfl | rfl | rfl
  · exact hmeasured ha (by decide)
  · exact hmeasured hb (by decide)
  · exact hmeasured hc (by decide)

/-! ## Reports -/

/-- Overlapping is symmetric in exact arithmetic: crossing outlines, of any number of vertices, are
so in either order; a survey of any outlines over exact numbers reports one of two sites from the
other exactly if it reports them the other way round; and so does a survey of a page of doubles, if
the turns of the two outlines are exact, whatever else is rounded. -/
theorem reports_symmetric :
    (∀ (K : Type) [CommRing K] [LinearOrder K] [IsStrictOrderedRing K] (a b : Polygon K),
      Polygon.cross a b = Polygon.cross b a) ∧
    (∀ (K : Type) [Field K] [LinearOrder K] [IsStrictOrderedRing K] [Floored K] (survey : Survey K)
      (connectorType : String) (a b : Site K), survey.Identified → survey.index? = none →
      a ∈ survey.sites → b ∈ survey.sites → a.id ≠ b.id → a.type ≠ connectorType →
      b.type ≠ connectorType →
      (survey.Reports connectorType a.id b.id ↔ survey.Reports connectorType b.id a.id)) ∧
    ∀ (document : Document) (index? : Option (GridIndex Float)) (connectorType : String)
      (first second : Shape), document.Sound → document.Surveyed index? →
      document.shape? first.id = some first → document.shape? second.id = some second →
      first.id ≠ second.id → first.type ≠ connectorType → second.type ≠ connectorType →
      (∀ a b, document.outline first = .ok a → document.outline second = .ok b →
        ExactTurns (a ++ b)) →
      ((document.survey index?).Reports connectorType first.id second.id ↔
        (document.survey index?).Reports connectorType second.id first.id) := by
  refine ⟨fun K _ _ _ => Polygon.cross_comm, ?_, ?_⟩
  · intro K _ _ _ _ survey connectorType a b hidentified hindex ha hb hne hatype hbtype
    exact hidentified.reports_comm hindex ha hb hne hatype hbtype
      fun _ _ _ _ p _ q _ r _ => Polygon.leftTurn_rotate p q r
  · intro document index? connectorType first second h hsurveyed hfirst hsecond hne hftype hstype
      hturns
    rw [h.reports_iff_scan hsurveyed, h.reports_iff_scan hsurveyed]
    exact h.identified.reports_comm rfl (h.site_mem hfirst) (h.site_mem hsecond) hne hftype hstype
      fun a b ha hb => (hturns a b ha hb).turnsAgree

/-- A triangle with its tip inside another one. -/
def triangles : Survey ℚ where
  sites := [⟨"a", "geo", ⟨0, 0⟩, .ok [⟨0, 0⟩, ⟨8, 0⟩, ⟨4, 6⟩]⟩,
    ⟨"b", "geo", ⟨0, 0⟩, .ok [⟨4, 4⟩, ⟨8, 10⟩, ⟨0, 10⟩]⟩]
  index? := none

/-- Each triangle is reported from the other one or neither is, and each of two squares of a page is
reported from the other one. -/
theorem squares_symmetric :
    (triangles.Identified ∧ ∀ _ : Floored ℚ,
      (triangles.Reports "arrow" "a" "b" ↔ triangles.Reports "arrow" "b" "a")) ∧
    squares.Sound ∧ squares.Surveyed none ∧
      (squares.survey none).Reports "arrow" (square "b").id (square "a").id := by
  obtain ⟨-, hexact, hpages⟩ := reports_symmetric
  obtain ⟨ha, hb, -⟩ := squares_upright
  have hcorners := exact_corners (a := ⟨0, 0, 10, 10⟩) (b := ⟨5, 5, 10, 10⟩) (by decide) (by decide)
  have hidentified : triangles.Identified := by
    simp [Survey.Identified, triangles]
  refine ⟨⟨hidentified, fun _ => ?_⟩, squares_sound, .scan, ?_⟩
  · exact hexact ℚ triangles "arrow" ⟨"a", "geo", ⟨0, 0⟩, _⟩ ⟨"b", "geo", ⟨0, 0⟩, _⟩ hidentified rfl
      (.head _) (.tail _ (.head _)) (by decide) (by decide) (by decide)
  · refine (hpages squares none "arrow" (square "a") (square "b") squares_sound .scan ha.known
      hb.known (by decide) (by decide) (by decide) fun outline other hfirst hsecond =>
        ?_).mp ?_
    · obtain ⟨_, hsame, hfinite, houtline⟩ := ha.outline_exact
        (hcorners.sublist (List.subset_append_left _ _))
      obtain ⟨_, hsame', hfinite', hother⟩ := hb.outline_exact
        (hcorners.sublist (List.subset_append_right _ _))
      cases hsame.symm.trans hfirst
      cases hsame'.symm.trans hsecond
      refine Exact.turns ?_ (by simpa only [List.forall_mem_append] using ⟨hfinite, hfinite'⟩)
      rwa [List.map_append, houtline, hother]
    · refine (squares_sound.identified.reports_iff rfl (squares_sound.site_mem ha.known)
        (squares_sound.site_mem hb.known) (by decide) (by decide)).mpr ⟨?_, ?_⟩
      · intro site hsite
        obtain ⟨shape, hshape, rfl⟩ := squares_sound.site_iff.mp hsite
        exact squares_measured _ shape hshape
      · refine (upright_meets_iff ha hb hcorners).mpr ⟨?_, ?_, ?_, ?_⟩ <;>
          norm_num [wholeBox, Box.maxX, Box.maxY]

/-- Of two upright shapes with exact corners the one is reported from the other exactly if some
point lies inside both boxes. There is an answer if the outlines of all shapes can be told. -/
theorem upright_overlaps_iff (connectorType : String) (h : document.Sound)
    (hsurveyed : document.Surveyed index?) {a b : Box ℚ} (ha : document.Upright first a)
    (hb : document.Upright second b) (hexact : Exact (a.corners ++ b.corners))
    (hne : first.id ≠ second.id) (htype : second.type ≠ connectorType) :
    ((∀ id shape, document.shape? id = some shape →
        ∃ outline, document.outline shape = .ok outline) →
      ∃ sites, (document.survey index?).overlapping connectorType (some first.id) = .ok sites) ∧
    (∀ sites, (document.survey index?).overlapping connectorType (some first.id) = .ok sites →
      (second.id ∈ sites.map Site.id ↔ ∃ point, a.Encloses point ∧ b.Encloses point)) ∧
    ((∃ point, a.Encloses point ∧ b.Encloses point) ↔
      a.x < b.x + b.w ∧ b.x < a.x + a.w ∧ a.y < b.y + b.h ∧ b.y < a.y + a.h) := by
  have hpoint := exists_enclosed_iff ha.positive hb.positive
  rw [h.overlapping_eq_scan hsurveyed]
  refine ⟨fun hall => ?_, fun sites hsites => ?_, ?_⟩
  · refine (h.identified.exists_overlapping_iff rfl (h.site_mem ha.known) connectorType).mpr
      fun site hsite => ?_
    obtain ⟨shape, hshape, rfl⟩ := h.site_iff.mp hsite
    exact hall _ shape hshape
  · rw [hpoint, ← upright_meets_iff ha hb hexact]
    exact h.identified.mem_overlapping_iff rfl (h.site_mem ha.known) (h.site_mem hb.known) hne htype
      hsites
  · rw [hpoint]
    exact ⟨fun hmeets => ⟨hmeets.left, hmeets.right, hmeets.top, hmeets.bottom⟩,
      fun ⟨hleft, hright, htop, hbottom⟩ => ⟨hleft, hright, htop, hbottom⟩⟩

/-- The square at the corner is reported, and the one at the side is not. -/
theorem squares_overlap :
    (squares.Sound ∧ squares.Upright (square "a") (wholeBox ⟨0, 0, 10, 10⟩) ∧
      squares.Upright (square "b") (wholeBox ⟨5, 5, 10, 10⟩) ∧
      squares.Upright (square "c") (wholeBox ⟨10, 0, 10, 10⟩)) ∧
    ∃ sites, (squares.survey none).overlapping "arrow" (some (square "a").id) = .ok sites ∧
      (square "b").id ∈ sites.map Site.id ∧ (square "c").id ∉ sites.map Site.id := by
  obtain ⟨ha, hb, hc⟩ := squares_upright
  obtain ⟨hanswer, hcorner, hmeets⟩ := upright_overlaps_iff "arrow" squares_sound .scan
    ha hb (exact_corners (by decide) (by decide)) (by decide) (by decide)
  obtain ⟨-, hside, hmeets'⟩ := upright_overlaps_iff "arrow" squares_sound .scan ha hc
    (exact_corners (by decide) (by decide)) (by decide) (by decide)
  obtain ⟨sites, hsites⟩ := hanswer squares_measured
  refine ⟨⟨squares_sound, ha, hb, hc⟩, sites, hsites, ?_, ?_⟩
  · rw [hcorner sites hsites, hmeets]
    norm_num [wholeBox]
  · rw [hside sites hsites, hmeets']
    norm_num [wholeBox]

end Canvasflow.Page.Document
