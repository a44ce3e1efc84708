import Canvasflow.Proofs.Geometry.GridIndex
import Canvasflow.Proofs.Page.Nesting
import Canvasflow.Proofs.Session.Kept

/-!
# Bringing an index up to date

What an engine does to its index before it lets its propagators react. Bringing a shape up to date
touches the index and nothing else (`Reindexed`). On a sound page it goes through the shape and
everything within it, and it succeeds exactly when the index takes the box of each of them
(`indexShape_ok` and `indexShape_fails`); then the index mirrors the page there, and is as it was
elsewhere.
-/

namespace Canvasflow.Page.Document

open Canvasflow.Geometry

/-- Whether an index takes the box that a shape has now. -/
def Takeable (document : Document) (index : GridIndex Float) (id : String) : Prop :=
  match document.bounds? id with
  | .ok none => True
  | .ok (some box) => index.Takes id box
  | .error _ => False

/-- Whether an index holds the box that a shape has now, or none when the shape is not there. -/
def Mirrored (document : Document) (index : GridIndex Float) (id : String) : Prop :=
  match document.bounds? id with
  | .ok none => index.box? id = none
  | .ok (some box) => index.Holds id box
  | .error _ => False

variable {document : Document} {index next : GridIndex Float} {id : String}

theorem Takeable.congr (h : document.Takeable index id) (hsize : next.cellSize = index.cellSize)
    (hbox : next.box? id = index.box? id) : document.Takeable next id := by
  unfold Takeable at h ⊢
  split at h
  · trivial
  · exact h.congr hsize hbox
  · exact h

/-- A box that is taken can be told. -/
theorem Takeable.isOk (h : document.Takeable index id) : (document.bounds? id).isOk = true := by
  unfold Takeable at h
  split at h
  · simp [*, Except.isOk, Except.toBool]
  · simp [*, Except.isOk, Except.toBool]
  · exact h.elim

theorem Mirrored.congr {other : Document} (h : document.Mirrored index id)
    (hbounds : other.bounds? id = document.bounds? id) (hbox : next.box? id = index.box? id) :
    other.Mirrored next id := by
  simpa only [Mirrored, hbounds, hbox, GridIndex.Holds] using h

end Canvasflow.Page.Document

namespace Canvasflow.Session

open Canvasflow.Geometry Canvasflow.Page Canvasflow.Propagation

variable {number : Nat} {s t u : Session}

/-- A session of which at most the index of an engine was changed. -/
def Reindexed (number : Nat) (s t : Session) : Prop :=
  t = s ∨ ∃ index, t = s.withIndex number index

namespace Reindexed

theorem refl (number : Nat) (s : Session) : Reindexed number s s :=
  .inl rfl

theorem trans (hst : Reindexed number s t) (htu : Reindexed number t u) : Reindexed number s u := by
  rcases htu with rfl | ⟨second, rfl⟩
  · exact hst
  · rcases hst with rfl | ⟨first, rfl⟩
    · exact .inr ⟨second, rfl⟩
    · refine .inr ⟨second, ?_⟩
      simp [withIndex, modifyEngine, List.modify_modify_eq, Function.comp_def]

theorem document_eq (h : Reindexed number s t) : t.document = s.document := by
  rcases h with rfl | ⟨index, rfl⟩ <;> rfl

theorem kept (h : Reindexed number s t) (hpresent : number < s.engines.length) :
    Kept number s t := by
  rcases h with rfl | ⟨index, rfl⟩
  · exact .refl number _
  · exact .withIndex hpresent index

theorem present (h : Reindexed number s t) (hpresent : number < s.engines.length) :
    number < t.engines.length :=
  (h.kept hpresent).engines ▸ hpresent

end Reindexed

theorem index_withIndex (hpresent : number < s.engines.length) (index : GridIndex Float) :
    ((s.withIndex number index).engineAt number).index? = some index := by
  rw [withIndex, engineAt_modifyEngine hpresent]

/-! ## One shape -/

/-- Taking a shape out of the index touches only the index. -/
theorem unindexShape_reindexed (number : Nat) (id : String) (s : Session) :
    Reindexed number s (unindexShape number id s) := by
  unfold unindexShape
  cases (s.engineAt number).index? with
  | none => exact .refl number s
  | some index => exact .inr ⟨_, rfl⟩

/-- Bringing one shape up to date touches only the index. -/
theorem indexOne_reindexed (number : Nat) (id : String) (s : Session) :
    Reindexed number s ((indexOne number id).run s).2 := by
  simp only [indexOne, Act.run_bind, Act.run_get]
  cases (s.engineAt number).index? with
  | none => exact .refl number s
  | some index =>
    simp only [Act.run_bind, Act.run_ofGeometry]
    cases s.document.bounds? id with
    | error fault => exact .refl number s
    | ok box? =>
      cases box? with
      | none => exact .inr ⟨_, rfl⟩
      | some box =>
        simp only [Except.mapError, Act.run_bind, Act.run_change]
        rcases index.insert id box with ⟨next, outcome⟩
        cases outcome <;> exact .inr ⟨next, rfl⟩

theorem indexOne_ok (hpresent : number < s.engines.length) {index : GridIndex Float}
    (hindex : (s.engineAt number).index? = some index) {id : String}
    (htake : s.document.Takeable index id) :
    ∃ t next, (indexOne number id).run s = (.ok (), t) ∧ (t.engineAt number).index? = some next ∧
      next.cellSize = index.cellSize ∧ s.document.Mirrored next id ∧ s.document.Takeable next id ∧
        ∀ other, other ≠ id → next.box? other = index.box? other := by
  simp only [indexOne, Act.run_bind, Act.run_get, hindex, Act.run_ofGeometry]
  unfold Document.Takeable at htake
  cases hbounds : s.document.bounds? id with
  | error fault => simp [hbounds] at htake
  | ok box? =>
    cases box? with
    | none =>
      refine ⟨_, index.remove id, rfl, index_withIndex hpresent _, by simp, ?_, ?_, ?_⟩
      · simp [Document.Mirrored, hbounds, GridIndex.box?_remove]
      · simp [Document.Takeable, hbounds]
      · intro other hne
        rw [GridIndex.box?_remove, if_neg hne]
    | some box =>
      rw [hbounds] at htake
      obtain ⟨next, hinsert, hsize, hholds, htakes, hothers⟩ := GridIndex.insert_of_takes htake
      simp only [Except.mapError, Act.run_bind, Act.run_change, hinsert]
      refine ⟨_, next, rfl, index_withIndex hpresent _, hsize, ?_, ?_, hothers⟩
      · simpa only [Document.Mirrored, hbounds] using hholds
      · simpa only [Document.Takeable, hbounds] using htakes

theorem indexOne_fails {index : GridIndex Float}
    (hindex : (s.engineAt number).index? = some index) {id : String}
    (htake : ¬ s.document.Takeable index id) :
    ∃ fault t, (indexOne number id).run s = (.error fault, t) := by
  simp only [indexOne, Act.run_bind, Act.run_get, hindex, Act.run_ofGeometry]
  unfold Document.Takeable at htake
  cases hbounds : s.document.bounds? id with
  | error fault => exact ⟨_, _, rfl⟩
  | ok box? =>
    cases box? with
    | none => simp [hbounds] at htake
    | some box =>
      rw [hbounds] at htake
      obtain ⟨fault, hinsert⟩ := GridIndex.insert_of_not_takes htake
      simp only [Except.mapError, Act.run_bind, Act.run_change, hinsert]
      exact ⟨_, _, rfl⟩

/-! ## Many shapes -/

theorem forM_indexOne_reindexed (number : Nat) (ids : List String) (s : Session) :
    Reindexed number s ((ids.forM (indexOne number)).run s).2 := by
  induction ids generalizing s with
  | nil => exact .refl number s
  | cons id rest ih =>
    have hone := indexOne_reindexed number id s
    rw [Act.run_forM_cons]
    rcases hrun : (indexOne number id).run s with ⟨fault | _, t⟩ <;> rw [hrun] at hone
    · exact hone
    · exact hone.trans (ih t)

/-- What is indexed in turn is mirrored afterwards, when the index takes all of it. -/
theorem forM_indexOne_ok (ids : List String) (hpresent : number < s.engines.length)
    {index : GridIndex Float} (hindex : (s.engineAt number).index? = some index)
    (htake : ∀ id ∈ ids, s.document.Takeable index id) :
    ∃ t next, (ids.forM (indexOne number)).run s = (.ok (), t) ∧
      (t.engineAt number).index? = some next ∧ (∀ id ∈ ids, s.document.Mirrored next id) ∧
        ∀ id, id ∉ ids → next.box? id = index.box? id := by
  induction ids generalizing s index with
  | nil => exact ⟨s, index, rfl, hindex, by simp, fun _ _ => rfl⟩
  | cons id rest ih =>
    obtain ⟨t, next, hrun, hnext, hsize, hmirror, hagain, hothers⟩ :=
      indexOne_ok hpresent hindex (htake id List.mem_cons_self)
    have hreindexed := indexOne_reindexed number id s
    rw [hrun] at hreindexed
    have hdocument := hreindexed.document_eq
    obtain ⟨u, last, hrest, hlast, hmirrors, hkeeps⟩ := ih (hreindexed.present hpresent) hnext (by
      intro other hother
      rw [hdocument]
      by_cases heq : other = id
      · exact heq ▸ hagain
      · exact (htake other (List.mem_cons_of_mem id hother)).congr hsize (hothers other heq))
    rw [hdocument] at hmirrors
    refine ⟨u, last, by rw [Act.run_forM_cons, hrun]; exact hrest, hlast, ?_, ?_⟩
    · intro other hother
      -- What comes again later is mirrored by its last turn.
      by_cases hlater : other ∈ rest
      · exact hmirrors other hlater
      · obtain rfl : other = id := by simpa [hlater] using hother
        exact hmirror.congr rfl (hkeeps other hlater)
    · intro other hother
      simp only [List.mem_cons, not_or] at hother
      rw [hkeeps other hother.2, hothers other hother.1]

/-- Indexing in turn fails when the index does not take all of it. -/
theorem forM_indexOne_fails {ids : List String} (hpresent : number < s.engines.length)
    {index : GridIndex Float} (hindex : (s.engineAt number).index? = some index) {id : String}
    (hid : id ∈ ids) (htake : ¬ s.document.Takeable index id) :
    ∃ fault t, (ids.forM (indexOne number)).run s = (.error fault, t) := by
  induction ids generalizing s index with
  | nil => cases hid
  | cons first rest ih =>
    rw [Act.run_forM_cons]
    by_cases hfirst : s.document.Takeable index first
    · obtain ⟨t, next, hrun, hnext, hsize, _, _, hothers⟩ := indexOne_ok hpresent hindex hfirst
      have hreindexed := indexOne_reindexed number first s
      rw [hrun] at hreindexed ⊢
      have hne : id ≠ first := by
        rintro rfl
        exact htake hfirst
      -- The box that the first shape took does not make room for another one.
      refine ih (hreindexed.present hpresent) hnext ((List.mem_cons.mp hid).resolve_left hne) ?_
      rw [hreindexed.document_eq]
      exact fun hnow => htake (hnow.congr hsize.symm (hothers id hne).symm)
    · obtain ⟨fault, t, hrun⟩ := indexOne_fails hindex hfirst
      exact ⟨fault, t, by rw [hrun]⟩

/-! ## A shape and everything within it -/

theorem forM_append {α : Type} (act : α → Act Unit) (first rest : List α) (s : Session) :
    ((first ++ rest).forM act).run s = match (first.forM act).run s with
      | (.ok _, t) => (rest.forM act).run t
      | (.error fault, t) => (.error fault, t) := by
  induction first generalizing s with
  | nil => rfl
  | cons a more ih =>
    rw [List.cons_append, Act.run_forM_cons, Act.run_forM_cons]
    rcases (act a).run s with ⟨fault | _, t⟩
    · rfl
    · exact ih t

/-- The shapes inside another one are brought up to date one after another, with what is within
them, if that is so for each of them. -/
theorem run_forM_indexTree {document : Document} {depth : Nat} (children : List String)
    (hchildren : ∀ child ∈ children, (document.shape? child).isSome ∧
      ∀ t : Session, t.document = document → (indexTree number depth child).run t =
        ((document.family depth child).forM (indexOne number)).run t)
    {t : Session} (hdocument : t.document = document) :
    (children.forM fun child => do
      if (document.shape? child).isSome then indexTree number depth child).run t =
      ((children.flatMap (document.family depth)).forM (indexOne number)).run t := by
  induction children generalizing t with
  | nil => rfl
  | cons child rest ih =>
    obtain ⟨hsome, hchild⟩ := hchildren child List.mem_cons_self
    have hmany := forM_indexOne_reindexed number (document.family depth child) t
    rw [Act.run_forM_cons, List.flatMap_cons, forM_append, if_pos hsome, hchild t hdocument]
    rcases hrun : ((document.family depth child).forM (indexOne number)).run t with ⟨fault | _, u⟩
    · rfl
    · rw [hrun] at hmany
      exact ih (fun other hother => hchildren other (List.mem_cons_of_mem child hother))
        (hmany.document_eq.trans hdocument)

/-- On a sound page, bringing a shape and everything within it up to date is to bring them up to
date one after another. -/
theorem run_indexTree (hsound : s.document.Sound) {depth : Nat} {id : String}
    (hdepth : s.document.shapes.length - s.document.place id < depth) :
    (indexTree number depth id).run s =
      ((s.document.family depth id).forM (indexOne number)).run s := by
  induction depth generalizing s id with
  | zero => omega
  | succ depth ih =>
    have hone := indexOne_reindexed number id s
    simp only [indexTree, Document.family, Act.run_bind, Act.run_get, Act.run_forM_cons]
    rcases hrun : (indexOne number id).run s with ⟨fault | _, t⟩
    · rfl
    · rw [hrun] at hone
      have hdocument : t.document = s.document := hone.document_eq
      simp only [hdocument]
      -- Indexing leaves the page alone, and a child comes later on it, so the depth left is enough.
      refine run_forM_indexTree _ (fun child hchild => ?_) hdocument
      obtain ⟨hlt, hlength⟩ := hsound.place_lt_of_mem_children hchild
      refine ⟨Document.place_lt_length_iff.mp hlength, fun u hu => ?_⟩
      rw [← hu] at hsound hdepth hlt hlength ⊢
      exact ih hsound (by omega)

/-- On a sound page, what is brought up to date with a shape is what lies within it. -/
theorem run_indexShape (number : Nat) (hsound : s.document.Sound) (id : String) :
    ∃ family : List String, (∀ other, other ∈ family ↔ s.document.Within id other) ∧
      (indexShape number id).run s = (family.forM (indexOne number)).run s := by
  have hdepth : s.document.shapes.length - s.document.place id < s.document.shapes.length + 1 := by
    omega
  refine ⟨s.document.family (s.document.shapes.length + 1) id, fun other =>
    hsound.mem_family_iff hdepth, ?_⟩
  simp only [indexShape, Act.run_bind, Act.run_get]
  exact run_indexTree hsound hdepth

theorem indexShape_reindexed (hsound : s.document.Sound) (number : Nat) (id : String) :
    Reindexed number s ((indexShape number id).run s).2 := by
  obtain ⟨family, _, hrun⟩ := run_indexShape number hsound id
  rw [hrun]
  exact forM_indexOne_reindexed number family s

/-- When the index takes the boxes of everything within a shape, they are mirrored afterwards. -/
theorem indexShape_ok (hsound : s.document.Sound) (hpresent : number < s.engines.length)
    {index : GridIndex Float} (hindex : (s.engineAt number).index? = some index) {id : String}
    (htake : ∀ other, s.document.Within id other → s.document.Takeable index other) :
    ∃ t next, (indexShape number id).run s = (.ok (), t) ∧
      (t.engineAt number).index? = some next ∧
        (∀ other, s.document.Within id other → s.document.Mirrored next other) ∧
          ∀ other, ¬ s.document.Within id other → next.box? other = index.box? other := by
  obtain ⟨family, hfamily, hrun⟩ := run_indexShape number hsound id
  obtain ⟨t, next, hok, hnext, hmirror, hothers⟩ := forM_indexOne_ok family hpresent hindex
    fun other hother => htake other ((hfamily other).mp hother)
  exact ⟨t, next, hrun.trans hok, hnext,
    fun other hwithin => hmirror other ((hfamily other).mpr hwithin),
    fun other hwithin => hothers other fun hmem => hwithin ((hfamily other).mp hmem)⟩

/-- When the index does not take the box of something within a shape, bringing the shape up to date
fails. -/
theorem indexShape_fails (hsound : s.document.Sound) (hpresent : number < s.engines.length)
    {index : GridIndex Float} (hindex : (s.engineAt number).index? = some index) {id other : String}
    (hwithin : s.document.Within id other) (htake : ¬ s.document.Takeable index other) :
    ∃ fault t, (indexShape number id).run s = (.error fault, t) := by
  obtain ⟨family, hfamily, hrun⟩ := run_indexShape number hsound id
  obtain ⟨fault, t, hfails⟩ := forM_indexOne_fails hpresent hindex
    ((hfamily other).mpr hwithin) htake
  exact ⟨fault, t, hrun.trans hfails⟩

/-- What was brought up to date without a fault is mirrored. -/
theorem indexShape_of_ok (hsound : s.document.Sound) (hpresent : number < s.engines.length)
    {index : GridIndex Float} (hindex : (s.engineAt number).index? = some index) {id : String}
    (hrun : (indexShape number id).run s = (.ok (), t)) :
    ∃ next, (t.engineAt number).index? = some next ∧
      (∀ other, s.document.Within id other → s.document.Mirrored next other) ∧
        ∀ other, ¬ s.document.Within id other → next.box? other = index.box? other := by
  have htake : ∀ other, s.document.Within id other → s.document.Takeable index other := by
    intro other hwithin
    by_contra htake
    obtain ⟨fault, u, hfails⟩ := indexShape_fails hsound hpresent hindex hwithin htake
    rw [hrun] at hfails
    cases hfails
  obtain ⟨u, next, hok, hnext⟩ := indexShape_ok hsound hpresent hindex htake
  rw [hrun] at hok
  cases hok
  exact ⟨next, hnext⟩

end Canvasflow.Session
