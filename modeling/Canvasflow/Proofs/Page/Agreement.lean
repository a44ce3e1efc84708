import Canvasflow.Proofs.Page.Whole

/-!
# Pages that agree

Two states of a page have the `SamePage` if the same lies on it, and the `SamePlan` if they differ
at most in what a patch or a marker changes. The plan says what is on a page, what lies within what,
and what may own a binding. So pages of one plan accept the same bindings (`SamePlan.bind`), and
agree after the same shapes were taken off (`SamePlan.without`).
-/

namespace Canvasflow.Page.Document

/-- Whether the same shapes, bindings and markers are on a page as before. -/
structure SamePage (before after : Document) : Prop where
  shapes : after.shapes = before.shapes
  bindings : after.bindings = before.bindings
  markers : after.markers = before.markers
  style : after.style = before.style

/-- Whether a page has the plan and the bindings that it had before, and no identity was given out
since. -/
structure SamePlan (before after : Document) : Prop where
  plan : after.plan = before.plan
  bindings : after.bindings = before.bindings
  style : after.style = before.style
  issued : after.issued = before.issued

variable {document next last : Document} {id : String}

namespace SamePage

@[refl] theorem refl (document : Document) : SamePage document document :=
  ⟨rfl, rfl, rfl, rfl⟩

theorem of_eq (h : next = document) : SamePage document next :=
  h ▸ .refl _

theorem trans (h : SamePage document next) (hnext : SamePage next last) : SamePage document last :=
  ⟨hnext.shapes.trans h.shapes, hnext.bindings.trans h.bindings, hnext.markers.trans h.markers,
    hnext.style.trans h.style⟩

theorem plan (h : SamePage document next) : next.plan = document.plan := by
  rw [Document.plan, Document.plan, h.shapes]

theorem samePlan (h : SamePage document next) (hissued : next.issued = document.issued) :
    SamePlan document next :=
  ⟨h.plan, h.bindings, h.style, hissued⟩

end SamePage

theorem Whole.congr (h : document.Whole) (hpage : SamePage document next) : next.Whole := by
  refine ⟨h.toSound.congr hpage.plan hpage.bindings hpage.style, ?_, ?_⟩
  · rw [hpage.shapes, hpage.markers]
    exact h.marked
  · rw [pageShapes, hpage.shapes]
    exact h.finite

namespace SamePlan

@[refl] theorem refl (document : Document) : SamePlan document document :=
  ⟨rfl, rfl, rfl, rfl⟩

theorem symm (h : SamePlan document next) : SamePlan next document :=
  ⟨h.plan.symm, h.bindings.symm, h.style.symm, h.issued.symm⟩

theorem trans (h : SamePlan document next) (hnext : SamePlan next last) : SamePlan document last :=
  ⟨hnext.plan.trans h.plan, hnext.bindings.trans h.bindings, hnext.style.trans h.style,
    hnext.issued.trans h.issued⟩

/-- A patch leaves the plan. -/
theorem update {patch : Patch} {shape : Shape} (h : document.update patch = .ok (shape, next)) :
    SamePlan document next := by
  have hplan := plan_update h
  obtain ⟨_, _, _, rfl⟩ := update_ok h
  exact ⟨hplan, rfl, rfl, rfl⟩

theorem mark (document : Document) (id : String) (marker : Marker) :
    SamePlan document (document.mark id marker) :=
  ⟨rfl, rfl, rfl, rfl⟩

/-- Shapes are found at the same stations. -/
theorem station (h : SamePlan document next) (id : String) :
    (next.shape? id).map Shape.station = (document.shape? id).map Shape.station := by
  rw [← find_plan, ← find_plan, h.plan]

theorem isSome (h : SamePlan document next) (id : String) :
    (next.shape? id).isSome = (document.shape? id).isSome := by
  simpa using congrArg Option.isSome (h.station id)

theorem holds_iff (h : SamePlan document next) {parent : String} :
    next.Holds parent id ↔ document.Holds parent id := by
  have hholds (page : Document) : page.Holds parent id ↔
      ∃ station, (page.shape? id).map Shape.station = some station ∧
        station.parent? = some parent := by
    simp [Holds, Shape.station]
  rw [hholds, hholds, h.station id]

theorem within (h : SamePlan document next) {root : String} (hwithin : next.Within root id) :
    document.Within root id := by
  induction hwithin with
  | self => exact .self
  | child hshape hparent _ ih =>
    obtain ⟨_, hshape, hparent⟩ := h.holds_iff.mp ⟨_, hshape, hparent⟩
    exact .child hshape hparent ih

theorem within_iff (h : SamePlan document next) {root : String} :
    next.Within root id ↔ document.Within root id :=
  ⟨h.within, h.symm.within⟩

/-- The same is left when the same shapes go. -/
theorem without (h : SamePlan document next) (gone : List String) :
    SamePlan (document.without gone) (next.without gone) :=
  ⟨by rw [plan_without, plan_without, h.plan], by simp only [Document.without, h.bindings], h.style,
    h.issued⟩

theorem remove (h : SamePlan document next) (id : String) :
    SamePlan (document.remove id) (next.remove id) :=
  ⟨by rw [plan_remove, plan_remove, h.plan], h.bindings, h.style, h.issued⟩

/-- The ends of a binding are checked by the plan. -/
theorem checkEnds (h : SamePlan document next) (connector target : String) :
    next.checkEnds connector target = document.checkEnds connector target := by
  have howner : next.checkOwner connector = document.checkOwner connector := by
    have hstation := h.station connector
    unfold checkOwner
    rw [h.style]
    cases hold : document.shape? connector with
    | none => rw [hold, Option.map_none, Option.map_eq_none_iff] at hstation; rw [hstation]
    | some shape =>
      rw [hold] at hstation
      obtain ⟨other, hnow, hstation⟩ := Option.map_eq_some_iff.mp hstation
      have htype : other.type = shape.type := congrArg Station.type hstation
      simp only [hnow, htype]
  have htarget : next.checkTarget target = document.checkTarget target := by
    have hsome : Entries.has target next.shapes = Entries.has target document.shapes :=
      h.isSome target
    rw [checkTarget, checkTarget, hsome]
  rw [Document.checkEnds, Document.checkEnds, howner, htarget]

/-- A binding is accepted by the plan. -/
theorem bind (h : SamePlan document next) (connector target : String) (terminal : Terminal)
    (id : String) :
    (next.bind connector target terminal id).1 = (document.bind connector target terminal id).1 ∧
      SamePlan (document.bind connector target terminal id).2
        (next.bind connector target terminal id).2 := by
  unfold Document.bind
  rw [h.checkEnds]
  cases document.checkEnds connector target with
  | error fault => exact ⟨rfl, h⟩
  | ok _ =>
    simp only [identify, h.issued]
    split
    · dsimp only
      rw [h.bindings, h.style]
      split
      · exact ⟨rfl, h.plan, rfl, rfl, rfl⟩
      · exact ⟨rfl, h.plan, rfl, rfl, rfl⟩
    · dsimp only
      rw [h.bindings, h.style]
      split
      · exact ⟨rfl, h⟩
      · exact ⟨rfl, h.plan, rfl, rfl, h.issued⟩

end SamePlan

end Canvasflow.Page.Document
