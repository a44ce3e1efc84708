import Canvasflow.Proofs.Geometry.Plane
import Canvasflow.Proofs.Session.Indexing
import Canvasflow.Session.World

/-!
# Surveys with and without an index

A survey of a page looks for what is near a shape in an index, or goes through all shapes. As long
as the index mirrors the page, both ways find the same shapes in the same order (`candidates_eq`):
the index misses nothing, its boxes equal those on the page, and the order is that of the page. So
every question about the page has the same answer with the index as without one, and those about
what overlaps a shape and what lies inside it have an answer. `answers_agree` is the main statement.
-/

namespace Canvasflow

namespace Geometry

/-- A test that does not fail keeps what passes it. -/
theorem keep_of_ok {ε α : Type} {test : α → Except ε Bool} {passes : α → Bool} {items : List α}
    (h : ∀ item ∈ items, test item = .ok (passes item)) :
    keep test items = .ok (items.filter passes) := by
  induction items with
  | nil => rfl
  | cons item rest ih =>
    obtain ⟨hitem, hrest⟩ := List.forall_mem_cons.mp h
    rw [keep, hitem, ih hrest]
    cases hpasses : passes item <;> simp [hpasses] <;> rfl

end Geometry

namespace Page.Document

open Canvasflow.Geometry Canvasflow.Geometry.GridIndex

variable {document : Document} {index : GridIndex Float} {id : String} {shape : Shape}

/-- Of a shape on a page that an index mirrors, the outline can be told, and the index has the box
around it, with its cells. -/
theorem Mirrored.entry (h : document.Mirrored index id) (hplaced : index.Placed)
    (hshape : document.shape? id = some shape) :
    ∃ outline entry, document.outline shape = .ok outline ∧
      Entries.find? id index.boxes = some entry ∧
      cells index.cellSize entry.box = .ok entry.cells ∧ (entry.box == Box.hull outline) = true := by
  unfold Mirrored bounds? bounds at h
  rw [hshape] at h
  cases houtline : document.outline shape with
  | error fault => simp [houtline, Except.map] at h
  | ok outline =>
    simp only [houtline, Except.map] at h
    obtain ⟨held, hheld, hsame⟩ := h
    obtain ⟨entry, hentry, rfl⟩ := Option.map_eq_some_iff.mp hheld
    have htold := hplaced.told hentry
    refine ⟨outline, entry, rfl, hentry, htold, ?_⟩
    rcases hsame with heq | hsame
    · rw [← heq]
      exact (finite_of_cells htold).beq_self
    · exact hsame

/-- The box around a shape on a page that an index mirrors has finite sides, and its cells can be
told. -/
theorem Mirrored.region (h : document.Mirrored index id) (hplaced : index.Placed)
    (hshape : document.shape? id = some shape) {outline : Polygon Float}
    (houtline : document.outline shape = .ok outline) :
    ∃ met, cells index.cellSize (Box.hull outline) = .ok met := by
  obtain ⟨other, entry, hother, _, htold, hsame⟩ := h.entry hplaced hshape
  obtain rfl : other = outline := Except.ok.inj (hother.symm.trans houtline)
  exact cells_of_beq htold hsame

/-- The sites of a sound page are its shapes under their identities. -/
theorem Sound.site_iff (h : document.Sound) {index? : Option (GridIndex Float)} {site : Site Float} :
    site ∈ (document.survey index?).sites ↔ ∃ shape, document.shape? site.id = some shape ∧
      site = ⟨shape.id, shape.type, ⟨shape.x, shape.y⟩, document.outline shape⟩ := by
  simp only [survey, List.mem_map]
  constructor
  · rintro ⟨shape, hmem, rfl⟩
    exact ⟨shape, h.filed.mem_pageShapes.mp hmem, rfl⟩
  · rintro ⟨shape, hshape, rfl⟩
    exact ⟨shape, h.filed.mem_pageShapes.mpr hshape, rfl⟩

section Mirror

variable (hsize : ¬ index.cellSize ≤ 0) (hplaced : index.Placed)
  (hmirrored : ∀ id, document.Mirrored index id)

include hsize hplaced hmirrored

/-- An index that mirrors the page answers with the shapes whose boxes overlap or touch the region.
-/
theorem mem_keysIn_iff {region : Box Float} {met : List Cell}
    (hmet : cells index.cellSize region = .ok met) (hforward : region.Forward) :
    ∃ keys, index.keysIn region = .ok keys ∧ ∀ id shape outline, document.shape? id = some shape →
      document.outline shape = .ok outline →
        (id ∈ keys ↔ (Box.hull outline).collides region = true) := by
  have hregion := finite_of_cells hmet
  -- The box that the index has of a shape may differ from the one on the page in signs of zeros.
  have hentry {id : String} {shape : Shape} (hshape : document.shape? id = some shape) :=
    (hmirrored id).entry hplaced hshape
  have hmeet : ∀ key entry, Entries.find? key index.boxes = some entry →
      entry.box.collides region → ∃ cell ∈ met, cell ∈ entry.cells := by
    intro key entry hfind hcollides
    cases hshape : document.shape? key with
    | none =>
      have hnone := hmirrored key
      simp [Mirrored, bounds?, hshape, box?, hfind] at hnone
    | some shape =>
      obtain ⟨outline, own, houtline, hfind', htold, hsame⟩ := hentry hshape
      obtain rfl : own = entry := Option.some.inj (hfind'.symm.trans hfind)
      obtain ⟨covered, hcovered⟩ := cells_of_beq htold hsame
      have hown := (forward_hull outline (finite_of_cells hcovered)).congr (finite_of_cells htold) hsame
      exact exists_mem_of_collides hsize htold hmet hown hforward hcollides
  obtain ⟨keys, hkeys, _, hmem⟩ := hplaced.mem_keysIn hmet hmeet
  refine ⟨keys, hkeys, fun id shape outline hshape houtline => ?_⟩
  obtain ⟨other, entry, hother, hfind, htold, hsame⟩ := hentry hshape
  obtain rfl : other = outline := Except.ok.inj (hother.symm.trans houtline)
  rw [hmem, ← collides_congr (finite_of_cells htold) hregion hsame]
  simp [box?, hfind]

/-- The index and the scan find the same sites near a shape, in the order of the page. -/
theorem Sound.candidates_eq (h : document.Sound) {source : Shape}
    (hsource : document.shape? id = some source) {outline : Polygon Float}
    (houtline : document.outline source = .ok outline) :
    ∃ near, (document.survey (some index)).candidates source.id (Box.hull outline) = .ok near ∧
      (document.survey none).candidates source.id (Box.hull outline) = .ok near ∧
        near.Sublist (document.survey none).sites := by
  obtain ⟨met, hmet⟩ := (hmirrored id).region hplaced hsource houtline
  have hforward := forward_hull outline (finite_of_cells hmet)
  obtain ⟨keys, hkeys, hmem⟩ := mem_keysIn_iff hsize hplaced hmirrored hmet hforward
  refine ⟨_, by simp only [Survey.candidates, survey, hkeys]; rfl, ?_,
    List.filter_sublist.trans List.filter_sublist⟩
  simp only [Survey.candidates, survey]
  refine keep_of_ok fun site hsite => ?_
  have hsite : site ∈ (document.survey none).sites := List.mem_of_mem_filter hsite
  obtain ⟨shape, hshape, rfl⟩ := h.site_iff.mp hsite
  obtain ⟨own, _, hown, _⟩ := (hmirrored shape.id).entry hplaced hshape
  have hnear : keys.contains shape.id = (Box.hull own).collides (Box.hull outline) := by
    rw [Bool.eq_iff_iff, List.contains_iff_mem, hmem shape.id shape own hshape hown]
  simp only [Site.bounds, hown, Except.map, hnear]
  rfl

end Mirror

/-- The outlines of all sites can be told on a page that an index mirrors. -/
theorem Sound.outline_of_site (h : document.Sound) (hplaced : index.Placed)
    (hmirrored : ∀ id, document.Mirrored index id) {site : Site Float}
    (hsite : site ∈ (document.survey none).sites) : ∃ outline, site.outline = .ok outline := by
  obtain ⟨shape, hshape, rfl⟩ := h.site_iff.mp hsite
  obtain ⟨outline, _, houtline, _⟩ := (hmirrored shape.id).entry hplaced hshape
  exact ⟨outline, houtline⟩

/-- What is near a shape: of the sites of a kind, those whose outlines pass a test together with the
outline of the shape. -/
def nearby (survey : Survey Float) (test : Polygon Float → Polygon Float → Bool)
    (kind : Site Float → Bool) (source : Option String) : Except Fault (List (Site Float)) :=
  match source.bind survey.site? with
  | none => .ok []
  | some site => do
    let outline ← site.outline
    let near ← survey.candidates site.id (Box.hull outline)
    keep (fun other => do return test outline (← other.outline)) (near.filter kind)

theorem overlapping_eq_nearby (survey : Survey Float) (connectorType : String)
    (source : Option String) : survey.overlapping connectorType source =
      nearby survey Survey.overlap (fun other => other.type ≠ connectorType) source := by
  unfold Survey.overlapping nearby
  cases source.bind survey.site? <;> rfl

/-- The boxes of sites are those around their outlines. -/
theorem inside_eq_nearby (survey : Survey Float) (types : List String) (source : Option String) :
    survey.inside types source =
      nearby survey (fun outline other => (Box.hull outline).contains (Box.hull other))
        (fun other => types.contains other.type) source := by
  have hbounds (region : Box Float) : (fun other : Site Float => do
      return region.contains (← other.bounds)) = fun other => do
        return region.contains (Box.hull (← other.outline)) := by
    funext other
    unfold Site.bounds
    cases other.outline <;> rfl
  unfold Survey.inside nearby
  cases source.bind survey.site? with
  | none => rfl
  | some site =>
    simp only [hbounds]
    unfold Site.bounds
    cases site.outline <;> rfl

/-- What a test of outlines says of a site, which fails without an outline. -/
def passesBy (test : Polygon Float → Bool) (site : Site Float) : Bool :=
  match site.outline with
  | .ok outline => test outline
  | .error _ => false

section Questions

variable (hsize : ¬ index.cellSize ≤ 0) (hplaced : index.Placed)
  (hmirrored : ∀ id, document.Mirrored index id)

include hsize hplaced hmirrored

/-- What is near a shape is the same, in the same order, however it is found. -/
theorem Sound.nearby_agrees (h : document.Sound) (test : Polygon Float → Polygon Float → Bool)
    (kind : Site Float → Bool) (source : Option String) :
    ∃ sites, nearby (document.survey (some index)) test kind source = .ok sites ∧
      nearby (document.survey none) test kind source = .ok sites ∧
        sites.Sublist (document.survey none).sites := by
  have hfind : source.bind (document.survey (some index)).site? =
      source.bind (document.survey none).site? := rfl
  unfold nearby
  rw [hfind]
  cases hsource : source.bind (document.survey none).site? with
  | none => exact ⟨[], rfl, rfl, List.nil_sublist _⟩
  | some site =>
    obtain ⟨id, _, hsite⟩ := Option.bind_eq_some_iff.mp hsource
    obtain ⟨shape, hshape, rfl⟩ := h.site_iff.mp (List.mem_of_find?_eq_some hsite)
    obtain ⟨outline, _, houtline, _⟩ := (hmirrored shape.id).entry hplaced hshape
    obtain ⟨near, hindex, hscan, hsublist⟩ :=
      h.candidates_eq hsize hplaced hmirrored hshape houtline
    have hkeep : keep (fun other => do return test outline (← other.outline)) (near.filter kind) =
        .ok ((near.filter kind).filter (passesBy (test outline))) := by
      refine keep_of_ok fun other hother => ?_
      obtain ⟨own, hown⟩ := h.outline_of_site hplaced hmirrored
        (hsublist.subset (List.mem_of_mem_filter hother))
      simp only [passesBy, hown]
      rfl
    refine ⟨(near.filter kind).filter (passesBy (test outline)), ?_, ?_,
      (List.filter_sublist.trans List.filter_sublist).trans hsublist⟩
    · exact bind_eq_ok_iff.mpr ⟨outline, houtline, bind_eq_ok_iff.mpr ⟨near, hindex, hkeep⟩⟩
    · exact bind_eq_ok_iff.mpr ⟨outline, houtline, bind_eq_ok_iff.mpr ⟨near, hscan, hkeep⟩⟩

end Questions

/-- On a page that an index mirrors, however the index came about, questions about what overlaps a
shape and what lies inside it find the same shapes in the order of the page with the index as
without one, and so every question of a program has one answer. -/
theorem Sound.answers_agree (h : document.Sound) {size : Float} (hsize : ¬ size ≤ 0)
    (changes : List (Change Float))
    (hmirrored : ∀ id, document.Mirrored ((GridIndex.empty size).after changes) id) :
    let index := (GridIndex.empty size).after changes
    (∀ connectorType source, ∃ sites,
      (document.survey (some index)).overlapping connectorType source = .ok sites ∧
      (document.survey none).overlapping connectorType source = .ok sites ∧
        sites.Sublist (document.survey none).sites) ∧
    (∀ types source, ∃ sites, (document.survey (some index)).inside types source = .ok sites ∧
      (document.survey none).inside types source = .ok sites ∧
        sites.Sublist (document.survey none).sites) ∧
    ∀ options question, Session.answer document options (some index) question =
      Session.answer document options none question := by
  intro index
  obtain ⟨hplaced, hcellSize⟩ := (placed_empty size).after changes
  have hsize : ¬ index.cellSize ≤ 0 := by rwa [hcellSize]
  have hnearby := h.nearby_agrees hsize hplaced hmirrored
  simp only [overlapping_eq_nearby, inside_eq_nearby]
  refine ⟨fun connectorType => hnearby _ _, fun types => hnearby _ _, fun options question => ?_⟩
  have hsame (test kind source) : nearby (document.survey (some index)) test kind source =
      nearby (document.survey none) test kind source := by
    obtain ⟨sites, hindex, hscan, _⟩ := hnearby test kind source
    rw [hindex, hscan]
  cases question with
  | intersects | getIntersects => simp only [Session.answer, overlapping_eq_nearby, hsame]
  | contains | getContains => simp only [Session.answer, inside_eq_nearby, hsame]
  | _ => rfl

/-- A page with two shapes that overlap at their corners. -/
def cornered : Document :=
  let sides : Entries Data := [("w", .int 10), ("h", .int 10)]
  let first := ((empty ⟨"arrow", "", ""⟩).create { type := "geo", id := "a", props := sides }).2
  (first.create { type := "geo", x := .int 5, y := .int 5, id := "b", props := sides }).2

/-- The shapes of the page, one of which was elsewhere before. -/
def cornering : List (Change Float) :=
  [.insert "b" ⟨200, 5, 10, 10⟩, .insert "a" ⟨0, 0, 10, 10⟩, .insert "b" ⟨5, 5, 10, 10⟩]

theorem mirrored_of_beq (held : Box Float)
    (hbounds : (document.bounds? id).toOption.join.map (held == ·) = some true)
    (hheld : index.box? id = some held) : document.Mirrored index id := by
  unfold Mirrored
  generalize document.bounds? id = found at hbounds
  rcases found with fault | (_ | box)
  · simp [Except.toOption] at hbounds
  · simp [Except.toOption] at hbounds
  · exact ⟨held, hheld, .inr (by simpa [Except.toOption] using hbounds)⟩

theorem mirrored_of_absent (hshape : id ∉ Entries.keys document.shapes)
    (hbox : id ∉ Entries.keys index.boxes) : document.Mirrored index id := by
  have hnone {α : Type} {entries : Entries α} (h : id ∉ Entries.keys entries) :
      Entries.find? id entries = none := by
    rwa [← Entries.has_iff_mem_keys, Entries.has, Option.not_isSome_iff_eq_none] at h
  simp [Mirrored, bounds?, shape?, box?, hnone hshape, hnone hbox]

/-- The index finds the shape at the corner that a scan finds. -/
theorem cornered_agrees :
    let index := (GridIndex.empty 100).after cornering
    (cornered.Sound ∧ ¬ (100 : Float) ≤ 0 ∧ ∀ id, cornered.Mirrored index id) ∧
      ∃ sites, (cornered.survey (some index)).overlapping "arrow" (some "a") = .ok sites ∧
        sites.map Site.id = ["b"] := by
  intro index
  have hsound : cornered.Sound := ((Sound.empty _).created _).created _
  have hsize : ¬ (100 : Float) ≤ 0 := by decide +kernel
  have hboxes : Entries.keys index.boxes = ["a", "b"] := by decide +kernel
  have hshapes : Entries.keys cornered.shapes = ["a", "b"] := by decide +kernel
  have hmirrored : ∀ id, cornered.Mirrored index id := by
    intro id
    by_cases ha : id = "a"
    · subst ha
      exact mirrored_of_beq ⟨0, 0, 10, 10⟩ (by decide +kernel) rfl
    · by_cases hb : id = "b"
      · subst hb
        exact mirrored_of_beq ⟨5, 5, 10, 10⟩ (by decide +kernel) rfl
      · exact mirrored_of_absent (by simp [hshapes, ha, hb]) (by simp [hboxes, ha, hb])
  refine ⟨⟨hsound, hsize, hmirrored⟩, ?_⟩
  obtain ⟨hoverlapping, _⟩ := hsound.answers_agree hsize cornering hmirrored
  obtain ⟨sites, hindex, hscan, _⟩ := hoverlapping "arrow" (some "a")
  have hfound : ((cornered.survey none).overlapping "arrow" (some "a")).toOption.map
      (List.map Site.id) = some ["b"] := by decide +kernel
  refine ⟨sites, hindex, ?_⟩
  simpa [hscan, Except.toOption] using hfound

end Page.Document

end Canvasflow
