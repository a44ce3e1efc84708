import Canvasflow.Geometry.Survey
import Canvasflow.Proofs.Outcome
import Mathlib

/-!
# Crossing and overlapping are symmetric

The test for crossing edges asks on which sides of the one edge the ends of the other lie, and a
point on an edge counts for one of its sides. Still it does not matter which edge is the first: the
turn around a triangle is the same at each of its corners (`leftTurn_rotate`), so the four turns of
the one order are those of the other. Whether outlines overlap is then symmetric (`overlap_comm`),
and a survey without an index reports a site from another one exactly when it reports them the other
way round (`reports_comm`).
-/

namespace Canvasflow.Geometry

namespace Polygon

variable {K : Type}

theorem mem_of_mem_edges {outline : Polygon K} {edge : Point K × Point K}
    (h : edge ∈ outline.edges) :
    edge.1 ∈ outline ∧ edge.2 ∈ outline := by
  cases outline with
  | nil => cases h
  | cons first rest =>
    obtain ⟨hstart, hend⟩ := List.of_mem_zip (show (edge.1, edge.2) ∈ _ from h)
    refine ⟨hstart, ?_⟩
    rw [List.mem_append, List.mem_singleton] at hend
    exact List.mem_cons.mpr hend.symm

section Turns

variable [Sub K] [Mul K] [LT K] [DecidableLT K]

/-- The turn around three of the points is the same wherever it starts. -/
def TurnsAgree (points : List (Point K)) : Prop :=
  ∀ a ∈ points, ∀ b ∈ points, ∀ c ∈ points, leftTurn a b c = leftTurn b c a

variable {a b : Polygon K}

theorem edgesCross_comm_of_turns (h : TurnsAgree (a ++ b)) {e f : Point K × Point K}
    (he : e ∈ a.edges) (hf : f ∈ b.edges) : edgesCross e f = edgesCross f e := by
  obtain ⟨he₁, he₂⟩ := mem_of_mem_edges he
  obtain ⟨hf₁, hf₂⟩ := mem_of_mem_edges hf
  replace he₁ := List.mem_append_left b he₁
  replace he₂ := List.mem_append_left b he₂
  replace hf₁ := List.mem_append_right a hf₁
  replace hf₂ := List.mem_append_right a hf₂
  unfold edgesCross
  rw [h _ he₁ _ hf₁ _ hf₂, h _ he₂ _ hf₁ _ hf₂, ← h _ hf₁ _ he₁ _ he₂, ← h _ hf₂ _ he₁ _ he₂,
    Bool.and_comm]

theorem cross_comm_of_turns (h : TurnsAgree (a ++ b)) : cross a b = cross b a := by
  unfold cross
  simp only [or_comm]
  split_ifs
  · rfl
  · rw [Bool.eq_iff_iff, List.any_eq_true, List.any_eq_true]
    simp only [List.any_eq_true]
    constructor
    · rintro ⟨e, he, f, hf, hcross⟩
      exact ⟨f, hf, e, he, (edgesCross_comm_of_turns h he hf).symm.trans hcross⟩
    · rintro ⟨f, hf, e, he, hcross⟩
      exact ⟨e, he, f, hf, (edgesCross_comm_of_turns h he hf).trans hcross⟩

end Turns

section Exact

variable [CommRing K] [LinearOrder K] [IsStrictOrderedRing K]

/-- Twice the area of the triangle is the same from each corner. -/
theorem leftTurn_rotate (a b c : Point K) : leftTurn a b c = leftTurn b c a := by
  have harea : (c.y - a.y) * (b.x - a.x) - (b.y - a.y) * (c.x - a.x) =
      (a.y - b.y) * (c.x - b.x) - (c.y - b.y) * (a.x - b.x) := by ring
  unfold leftTurn
  rw [decide_eq_decide, ← sub_pos, harea, sub_pos]

/-- In exact arithmetic it does not matter which of two outlines is the first. -/
theorem cross_comm (a b : Polygon K) : cross a b = cross b a :=
  cross_comm_of_turns fun p _ q _ r _ => leftTurn_rotate p q r

end Exact

end Polygon

theorem Box.collides_comm {K : Type} [Add K] [LT K] [DecidableLT K] (a b : Box K) :
    a.collides b = b.collides a := by
  unfold Box.collides
  grind

/-! ## What a test keeps -/

section Keep

variable {ε α : Type} {test : α → Except ε Bool} {items kept : List α}

theorem keep_cons_eq_ok {item : α} :
    keep test (item :: items) = .ok kept ↔ ∃ passed others, test item = .ok passed ∧
      keep test items = .ok others ∧ kept = if passed then item :: others else others := by
  rw [keep, bind_eq_ok_iff]
  simp only [bind_eq_ok_iff]
  constructor
  · rintro ⟨passed, hitem, others, hrest, h⟩
    exact ⟨passed, others, hitem, hrest, (Except.ok.inj h).symm⟩
  · rintro ⟨passed, others, hitem, hrest, rfl⟩
    exact ⟨passed, hitem, others, hrest, rfl⟩

/-- Some items are kept unless the test fails for one of all items. -/
theorem exists_keep_iff : (∃ kept, keep test items = .ok kept) ↔
    ∀ item ∈ items, ∃ passed, test item = .ok passed := by
  induction items with
  | nil => simp [keep]
  | cons item rest ih =>
    rw [List.forall_mem_cons, ← ih]
    simp only [keep_cons_eq_ok]
    constructor
    · rintro ⟨_, passed, others, hitem, hrest, -⟩
      exact ⟨⟨passed, hitem⟩, others, hrest⟩
    · rintro ⟨⟨passed, hitem⟩, others, hrest⟩
      exact ⟨_, passed, others, hitem, hrest, rfl⟩

/-- The items kept are those that pass. -/
theorem mem_keep_iff (h : keep test items = .ok kept) (item : α) :
    item ∈ kept ↔ item ∈ items ∧ test item = .ok true := by
  induction items generalizing kept with
  | nil =>
    cases h
    simp
  | cons first rest ih =>
    obtain ⟨passed, others, hfirst, hrest, rfl⟩ := keep_cons_eq_ok.mp h
    cases passed with
    | true =>
      rw [if_pos rfl, List.mem_cons, List.mem_cons, ih hrest]
      grind
    | false =>
      rw [if_neg (by decide), List.mem_cons, ih hrest]
      grind

end Keep

/-! ## Surveys -/

namespace Survey

section Scan

variable {K : Type}

/-- No two sites of the survey have one identity. -/
def Identified (survey : Survey K) : Prop :=
  ∀ a ∈ survey.sites, ∀ b ∈ survey.sites, a.id = b.id → a = b

variable {survey : Survey K} {connectorType : String} {a b : Site K}

theorem Identified.site?_eq (h : survey.Identified) (ha : a ∈ survey.sites) :
    survey.site? a.id = some a := by
  have hfound : (survey.site? a.id).isSome = true := by
    rw [site?, List.find?_isSome]
    exact ⟨a, ha, by simp⟩
  obtain ⟨found, hfound⟩ := Option.isSome_iff_exists.mp hfound
  have hid : found.id = a.id := by simpa using List.find?_some hfound
  rw [hfound, h found (List.mem_of_find?_eq_some hfound) a ha hid]

/-- What a test of its outline says of a site. -/
theorem tested_eq_ok_iff {test : Polygon K → Bool} {site : Site K} {passed : Bool} :
    (do return test (← site.outline) : Except Fault Bool) = .ok passed ↔
      ∃ outline, site.outline = .ok outline ∧ test outline = passed := by
  cases site.outline with
  | error fault => simp [bind, Except.bind]
  | ok outline => simp [bind, Except.bind, pure, Except.pure]

variable [Add K] [Sub K] [Mul K] [Div K] [OfNat K 0] [LT K] [LE K] [DecidableLT K] [DecidableLE K]
  [Floored K]

/-- Whether a survey reports a site as overlapping another one. -/
def Reports (survey : Survey K) (connectorType source other : String) : Prop :=
  ∃ sites, survey.overlapping connectorType (some source) = .ok sites ∧ other ∈ sites.map Site.id

omit [Mul K] in
/-- Without an index all sites but the source are looked at. -/
theorem candidates_scan (hindex : survey.index? = none) (source : String) (region : Box K) :
    survey.candidates source region =
      keep (fun site => do return (Box.hull (← site.outline)).collides region)
        (survey.sites.filter fun site => site.id ≠ source) := by
  have htest : (fun site : Site K => do return (← site.bounds).collides region) = fun site => do
      return (Box.hull (← site.outline)).collides region := by
    funext site
    unfold Site.bounds
    cases site.outline <;> rfl
  unfold candidates
  simp only [hindex, htest]

/-- What an answer without an index consists of. -/
theorem Identified.overlapping_eq_ok_iff (h : survey.Identified) (hindex : survey.index? = none)
    (ha : a ∈ survey.sites) {sites : List (Site K)} :
    survey.overlapping connectorType (some a.id) = .ok sites ↔
      ∃ outline, a.outline = .ok outline ∧ ∃ near,
        keep (fun site => do return (Box.hull (← site.outline)).collides (Box.hull outline))
          (survey.sites.filter fun site => site.id ≠ a.id) = .ok near ∧
        keep (fun site => do return overlap outline (← site.outline))
          (near.filter fun site => site.type ≠ connectorType) = .ok sites := by
  unfold overlapping
  simp only [Option.bind_some, h.site?_eq ha, candidates_scan hindex,
    bind_eq_ok_iff (α := Polygon K), bind_eq_ok_iff (α := List (Site K))]

/-- Without an index a survey has an answer exactly if all outlines can be told. -/
theorem Identified.exists_overlapping_iff (h : survey.Identified) (hindex : survey.index? = none)
    (ha : a ∈ survey.sites) (connectorType : String) :
    (∃ sites, survey.overlapping connectorType (some a.id) = .ok sites) ↔
      ∀ site ∈ survey.sites, ∃ outline, site.outline = .ok outline := by
  simp only [h.overlapping_eq_ok_iff hindex ha]
  constructor
  · rintro ⟨sites, outline, houtline, near, hnear, -⟩ site hsite
    by_cases hid : site.id = a.id
    · exact ⟨outline, h site hsite a ha hid ▸ houtline⟩
    · obtain ⟨_, htest⟩ := exists_keep_iff.mp ⟨near, hnear⟩ site
        (List.mem_filter.mpr ⟨hsite, by simpa using hid⟩)
      obtain ⟨other, hother, -⟩ := tested_eq_ok_iff.mp htest
      exact ⟨other, hother⟩
  · intro hall
    have htested (test : Polygon K → Bool) {site : Site K} (hsite : site ∈ survey.sites) :
        ∃ passed, (do return test (← site.outline) : Except Fault Bool) = .ok passed := by
      obtain ⟨outline, houtline⟩ := hall site hsite
      exact ⟨_, tested_eq_ok_iff.mpr ⟨outline, houtline, rfl⟩⟩
    obtain ⟨outline, houtline⟩ := hall a ha
    obtain ⟨near, hnear⟩ := exists_keep_iff.mpr fun site hsite =>
      htested (fun other => (Box.hull other).collides (Box.hull outline))
        (List.mem_of_mem_filter hsite)
    obtain ⟨sites, hsites⟩ := exists_keep_iff.mpr fun site hsite =>
      htested (overlap outline) (List.mem_of_mem_filter ((mem_keep_iff hnear site).mp
        (List.mem_of_mem_filter (p := fun other => other.type ≠ connectorType) hsite)).1)
    exact ⟨sites, outline, houtline, near, hnear, hsites⟩

/-- In an answer without an index are the sites whose boxes overlap or touch that of the source and
whose outlines overlap its outline. -/
theorem Identified.mem_overlapping_iff (h : survey.Identified) (hindex : survey.index? = none)
    (ha : a ∈ survey.sites) (hb : b ∈ survey.sites) (hne : a.id ≠ b.id)
    (htype : b.type ≠ connectorType) {sites : List (Site K)}
    (hsites : survey.overlapping connectorType (some a.id) = .ok sites) :
    b.id ∈ sites.map Site.id ↔ ∃ first second, a.outline = .ok first ∧ b.outline = .ok second ∧
      (Box.hull second).collides (Box.hull first) = true ∧ overlap first second = true := by
  obtain ⟨first, hfirst, near, hnear, hsites⟩ := (h.overlapping_eq_ok_iff hindex ha).mp hsites
  constructor
  · intro hmem
    obtain ⟨site, hsite, hid⟩ := List.mem_map.mp hmem
    obtain ⟨hclose, hoverlap⟩ := (mem_keep_iff hsites site).mp hsite
    obtain ⟨hsite, hcollides⟩ := (mem_keep_iff hnear site).mp (List.mem_of_mem_filter hclose)
    obtain rfl := h site (List.mem_of_mem_filter hsite) b hb hid
    obtain ⟨second, hsecond, hoverlap⟩ := tested_eq_ok_iff.mp hoverlap
    obtain ⟨_, hsame, hcollides⟩ := tested_eq_ok_iff.mp hcollides
    cases hsecond.symm.trans hsame
    exact ⟨first, second, hfirst, hsecond, hcollides, hoverlap⟩
  · rintro ⟨_, second, hsame, hsecond, hcollides, hoverlap⟩
    cases hfirst.symm.trans hsame
    have hclose : b ∈ near := (mem_keep_iff hnear b).mpr
      ⟨List.mem_filter.mpr ⟨hb, by simpa using hne.symm⟩,
        tested_eq_ok_iff.mpr ⟨second, hsecond, hcollides⟩⟩
    refine List.mem_map.mpr ⟨b, (mem_keep_iff hsites b).mpr ⟨?_, ?_⟩, rfl⟩
    · exact List.mem_filter.mpr ⟨hclose, by simpa using htype⟩
    · exact tested_eq_ok_iff.mpr ⟨second, hsecond, hoverlap⟩

/-- Without an index a survey reports a site exactly if all outlines can be told, the boxes around
the two sites overlap or touch, and the outlines overlap. -/
theorem Identified.reports_iff (h : survey.Identified) (hindex : survey.index? = none)
    (ha : a ∈ survey.sites) (hb : b ∈ survey.sites) (hne : a.id ≠ b.id)
    (htype : b.type ≠ connectorType) :
    survey.Reports connectorType a.id b.id ↔
      (∀ site ∈ survey.sites, ∃ outline, site.outline = .ok outline) ∧
        ∃ first second, a.outline = .ok first ∧ b.outline = .ok second ∧
          (Box.hull second).collides (Box.hull first) = true ∧ overlap first second = true := by
  rw [← h.exists_overlapping_iff hindex ha connectorType]
  constructor
  · rintro ⟨sites, hsites, hmem⟩
    exact ⟨⟨sites, hsites⟩, (h.mem_overlapping_iff hindex ha hb hne htype hsites).mp hmem⟩
  · rintro ⟨⟨sites, hsites⟩, hfound⟩
    exact ⟨sites, hsites, (h.mem_overlapping_iff hindex ha hb hne htype hsites).mpr hfound⟩

omit [Div K] [Floored K] in
/-- Outlines overlap in either order if their turns agree. -/
theorem overlap_comm_of_turns {first second : Polygon K}
    (h : Polygon.TurnsAgree (first ++ second)) : overlap first second = overlap second first := by
  unfold overlap
  rw [Polygon.cross_comm_of_turns h, Bool.or_assoc, Bool.or_assoc, Bool.or_comm (Box.contains _ _)]

/-- Two sites are reported from each other, or neither from the other one. -/
theorem Identified.reports_comm (h : survey.Identified) (hindex : survey.index? = none)
    (ha : a ∈ survey.sites) (hb : b ∈ survey.sites) (hne : a.id ≠ b.id)
    (hatype : a.type ≠ connectorType) (hbtype : b.type ≠ connectorType)
    (hturns : ∀ first second, a.outline = .ok first → b.outline = .ok second →
      Polygon.TurnsAgree (first ++ second)) :
    survey.Reports connectorType a.id b.id ↔ survey.Reports connectorType b.id a.id := by
  rw [h.reports_iff hindex ha hb hne hbtype, h.reports_iff hindex hb ha hne.symm hatype]
  refine and_congr_right fun _ => ?_
  constructor
  · rintro ⟨first, second, hfirst, hsecond, hcollides, hoverlap⟩
    rw [Box.collides_comm, overlap_comm_of_turns (hturns first second hfirst hsecond)] at *
    exact ⟨second, first, hsecond, hfirst, hcollides, hoverlap⟩
  · rintro ⟨second, first, hsecond, hfirst, hcollides, hoverlap⟩
    rw [Box.collides_comm, ← overlap_comm_of_turns (hturns first second hfirst hsecond)] at *
    exact ⟨first, second, hfirst, hsecond, hcollides, hoverlap⟩

end Scan

end Survey

end Canvasflow.Geometry
