import Canvasflow.Proofs.Session.Survival

/-!
# The index mirrors the page

The index of an engine mirrors a page when it has the box of every shape of the page and no other
one. A change of a shape disturbs that only within the shape, and the engine makes up for it as
soon as it is told; it cannot when the index refuses a box, which is a miss. So a mirror lasts,
whatever a host does, as long as nothing is missed (`surviving_reflects`). A start indexes the page
before it looks at the connectors, and connectors that run then write without the engine being
told: `Started.mirrors_iff` says that the index mirrors the page from then on exactly if that moved
nothing.
-/

namespace Canvasflow.Page.Document

open Canvasflow.Geometry

/-- Whether two pages have the same box under an identity, up to the comparison of boxes, or both
none. -/
def Unmoved (document next : Document) (id : String) : Prop :=
  match document.bounds? id, next.bounds? id with
  | .ok none, .ok none => True
  | .ok (some box), .ok (some other) => box = other ∨ (box == other) = true
  | _, _ => False

variable {document next : Document} {index : GridIndex Float} {id : String}

/-- An index with the very boxes of a page mirrors another page where nothing was moved. -/
theorem mirrored_iff_unmoved (h : document.bounds? id = .ok (index.box? id)) :
    next.Mirrored index id ↔ document.Unmoved next id := by
  unfold Mirrored Unmoved
  rw [h]
  rcases next.bounds? id with fault | (_ | box) <;> rcases hheld : index.box? id with _ | held <;>
    simp [GridIndex.Holds, hheld]

end Canvasflow.Page.Document

namespace Canvasflow.Session

open Canvasflow.Connector Canvasflow.Geometry Canvasflow.Page Canvasflow.Propagation

variable {number : Nat} {base : List Step} {s t : Session}

/-- Whether the index of an engine mirrors the page. -/
def Mirrors (number : Nat) (s : Session) : Prop :=
  ∃ index, (s.engineAt number).index? = some index ∧ ∀ id, s.document.Mirrored index id

/-- The same but for what lies within a shape. -/
def MirrorsOutside (number : Nat) (root : String) (s : Session) : Prop :=
  ∃ index, (s.engineAt number).index? = some index ∧
    ∀ id, ¬ s.document.Within root id → s.document.Mirrored index id

/-- Whether a step is that the index of an engine could not be brought up to date. -/
def Step.IsMiss (number : Nat) : Step → Prop
  | .failed engine topic _ => engine = number ∧ (topic = .created ∨ topic = .changed)
  | _ => False

/-- A watched session in which the index mirrors the page if nothing was missed. -/
def Reflects (number : Nat) (base : List Step) (s : Session) : Prop :=
  Watched number base s ∧ (Since base (Step.IsMiss number) s ∨ Mirrors number s)

/-- The same between a change of a shape and its notice. -/
def Disturbed (number : Nat) (base : List Step) (shape : Shape) (s : Session) : Prop :=
  Watched number base s ∧ (Since base (Step.IsMiss number) s ∨ MirrorsOutside number shape.id s)

theorem Mirrors.congr (h : Mirrors number s)
    (hindex : (t.engineAt number).index? = (s.engineAt number).index?)
    (hbounds : ∀ id, t.document.bounds? id = s.document.bounds? id) : Mirrors number t := by
  obtain ⟨index, hsome, hmirrored⟩ := h
  exact ⟨index, hindex.trans hsome, fun id => (hmirrored id).congr (hbounds id) rfl⟩

/-- What neither touches the index nor moves a shape. -/
theorem Reflects.mono (h : Reflects number base s) (hsubscribers : t.subscribers = s.subscribers)
    (htrail : ∃ steps, t.trail = steps ++ s.trail)
    (hindex : (t.engineAt number).index? = (s.engineAt number).index?)
    (hbounds : ∀ id, t.document.bounds? id = s.document.bounds? id) : Reflects number base t :=
  ⟨h.1.mono hsubscribers htrail, h.2.imp (fun hmissed => hmissed.mono htrail) fun hmirrors =>
    hmirrors.congr hindex hbounds⟩

theorem Reflects.note (h : Reflects number base s) (step : Step) :
    Reflects number base (s.note step) :=
  h.mono rfl ⟨[step], rfl⟩ rfl fun _ => rfl

theorem Reflects.modifyEngine (h : Reflects number base s) (hfit : Fit number s)
    {change : Engine → Engine}
    (hindex : (change (s.engineAt number)).index? = (s.engineAt number).index?) :
    Reflects number base (s.modifyEngine number change) :=
  h.mono rfl ⟨[], rfl⟩ (by rw [engineAt_modifyEngine hfit.present, hindex]) fun _ => rfl

theorem Reflects.modifyPropagator (h : Reflects number base s) (hfit : Fit number s)
    (trigger : Trigger) (change : Propagator → Propagator) :
    Reflects number base (s.modifyPropagator number trigger change) :=
  h.modifyEngine hfit rfl

/-- A change of the document that leaves the shapes alone. -/
theorem Reflects.withDocument (h : Reflects number base s) (hfit : Fit number s)
    {document : Document} (hsound : document.Sound)
    (hshapes : document.shapes = s.document.shapes) :
    Reflects number base (s.withDocument document) :=
  h.mono rfl ⟨[], rfl⟩ rfl (hfit.sound.bounds_of_shapes_eq hsound hshapes)

theorem Reflects.recordNotice (h : Reflects number base s) (notice : Notice) :
    Reflects number base (s.recordNotice notice) := by
  unfold Session.recordNotice
  split
  · exact h.mono rfl ⟨[], rfl⟩ rfl fun _ => rfl
  · exact h

/-- A change of one shape disturbs the mirror only within the shape. -/
theorem Reflects.disturbed (h : Reflects number base s) (hfit : Fit number s) {shape : Shape}
    {document : Document} (hsound : document.Sound)
    (hsame : ∀ {other : String}, other ≠
      shape.id → document.shape? other = s.document.shape? other) :
    Disturbed number base shape (s.withDocument document) := by
  refine ⟨h.1.mono rfl ⟨[], rfl⟩, h.2.imp (fun hmissed => hmissed.mono ⟨[], rfl⟩) ?_⟩
  rintro ⟨index, hsome, hmirrored⟩
  refine ⟨index, hsome, fun id hid => ?_⟩
  have hold : ¬ s.document.Within shape.id id := fun hwithin => hid (hwithin.congr hsame)
  exact (hmirrored id).congr (hfit.sound.bounds_of_untouched hsound hsame hold) rfl

theorem Reflects.update (h : Reflects number base s) (hfit : Fit number s) {patch : Patch}
    {shape : Shape} {document : Document}
    (hupdate : s.document.update patch = .ok (shape, document)) :
    Disturbed number base shape (s.withDocument document) := by
  have hsound := hfit.sound.update hupdate
  obtain ⟨old, hold, hpatched, rfl⟩ := Document.update_ok hupdate
  have hid : shape.id = patch.id := by
    have hstation := congrArg Station.id (Document.patched_station hpatched)
    exact hstation.trans (hfit.sound.id_eq hold)
  exact h.disturbed hfit hsound fun hne => Entries.find?_set_of_ne (hid ▸ hne) _ _

/-! ## Cascades -/

/-- Bringing a disturbed index up to date mends it. -/
theorem Disturbed.mended {shape : Shape} (h : Disturbed number base shape s) (hfit : Fit number s)
    (hrun : (indexShape number shape.id).run s = (.ok (), t)) : Reflects number base t := by
  have hreindexed := indexShape_reindexed hfit.sound number shape.id
  rw [hrun] at hreindexed
  have hkept := hreindexed.kept hfit.present
  refine ⟨h.1.steady hkept.toSteady, h.2.imp (fun hmissed =>
    hmissed.mono hkept.trail_append) ?_⟩
  rintro ⟨index, hindex, hmirrored⟩
  obtain ⟨next, hnext, hwithin, hothers⟩ :=
    indexShape_of_ok hfit.sound hfit.present hindex hrun
  rw [Mirrors, hreindexed.document_eq]
  refine ⟨next, hnext, fun id => ?_⟩
  by_cases hid : s.document.Within shape.id id
  · exact hwithin id hid
  · exact (hmirrored id hid).congr rfl (hothers id hid)

/-- An index that cannot be brought up to date misses something. -/
theorem Disturbed.missed {shape : Shape} (h : Disturbed number base shape s) (hfit : Fit number s)
    {topic : Topic} (htopic : topic = .created ∨ topic = .changed) {fault : Fault}
    (hrun : (indexShape number shape.id).run s = (.error fault, t)) :
    Reflects number base (t.note (.failed number topic (some shape.id))) := by
  have hreindexed := indexShape_reindexed hfit.sound number shape.id
  rw [hrun] at hreindexed
  have hwatched := h.1.steady (hreindexed.kept hfit.present).toSteady
  exact ⟨hwatched.mono rfl ⟨[_], rfl⟩, .inl (.noted hwatched.since ⟨rfl, htopic⟩)⟩

theorem Disturbed.recordNotice {shape : Shape} (h : Disturbed number base shape s)
    (notice : Notice) :
    Disturbed number base shape (s.recordNotice notice) := by
  unfold Session.recordNotice
  split
  · exact ⟨h.1.mono rfl ⟨[], rfl⟩, h.2.imp (fun hmissed => hmissed.mono ⟨[], rfl⟩) id⟩
  · exact h

theorem upkeep_reflects (number : Nat) (base : List Step) :
    Upkeep number (Reflects number base) (Disturbed number base) where
  called hgood _ := hgood.note _
  guarded _ hfit hgood := (hgood.modifyEngine hfit rfl).note _
  cached trigger _ hfit hgood _ _ := hgood.modifyPropagator hfit trigger _
  logged _ hgood := hgood.mono rfl ⟨[], rfl⟩ rfl fun _ => rfl
  marked _ _ hfit hgood := hgood.withDocument hfit (hfit.sound.congr rfl rfl rfl) rfl
  written hfit hgood _ hupdate := hgood.update hfit hupdate
  coloured hfit hgood _ _ hupdate := hgood.update hfit hupdate

theorem sorting_reflects (number : Nat) (base : List Step) (trigger : Trigger) (shape : Shape) :
    Sorting number (Reflects number base) (Reflects number base) trigger shape :=
  ⟨fun _ hgood _ => hgood, fun hfit hgood _ _ => hgood.modifyPropagator hfit trigger _,
    fun hfit hgood _ => hgood.modifyPropagator hfit trigger _⟩

/-- An engine mends its index after every change that a cascade makes. -/
theorem closed_reflects (number : Nat) (base : List Step) :
    Closed number (Reflects number base) (Disturbed number base) where
  upkeep := upkeep_reflects number base
  changed hagree span width shape := by
    refine changed_twin (fun _ h => h.1.attended) (fun hfit h hrun => ?_) (fun hfit h hrun => ?_)
      (spread_twin hagree (upkeep_reflects number base) fun trigger =>
        sorting_reflects number base trigger shape)
    · exact (h.recordNotice _).mended ((Kept.record _ _).fit hfit) hrun
    · exact (h.recordNotice _).missed ((Kept.record _ _).fit hfit) (.inr rfl) hrun

/-! ## Commands of a host -/

/-- Notices that are not about shapes. -/
theorem reflects_handOut {first second : Notify} {bound : Nat}
    (hagree : Agree number (Reflects number base) (Disturbed number base) first second bound)
    {notice : Notice} (htopic : notice.topic ∉ [Topic.created, .changed, .deleted])
    (span width : Nat) :
    Twin number bound (Reflects number base) (Reflects number base) (handOut first span notice)
      (handOut second width notice) := by
  have hupkeep := upkeep_reflects number base
  have hrebound (binding : Binding) :
      Twin number bound (Reflects number base) (Reflects number base)
        (engineRebound first number binding) (engineRebound second number binding) :=
    engineRebound_twin hagree hupkeep fun _ _ _ trigger => sorting_reflects number base trigger _
  refine handOut_twin (fun _ h => h.recordNotice notice)
    (tell_twin ?_ (fun _ h => h.note _) span width)
  cases notice with
  | created | changed | deleted => simp [Notice.topic] at htopic
  | bound binding => exact .change (hrebound binding)
  | unbound binding => exact .change (hrebound binding)
  | input event => exact input_twin hagree hupkeep event
  | frame => exact frame_twin hagree hupkeep fun hfit h => h.modifyEngine hfit rfl

theorem Reflects.survives (h : Reflects number base s) (hfit : Fit number s) {notice : Notice}
    (htopic : notice.topic ∉ [Topic.created, .changed, .deleted]) :
    Survives number (Reflects number base) notice s :=
  (closed_reflects number base).survives
  (fun hagree span => reflects_handOut hagree htopic span span)
    hfit h

/-- A new shape is indexed. -/
theorem Disturbed.created {shape : Shape} (h : Disturbed number base shape s)
    (hfit : Fit number s) :
    Survives number (Reflects number base) (.created shape) s := by
  intro span depth _
  have hfit' := (Kept.record s (.created shape)).fit hfit
  have hdisturbed := h.recordNotice (.created shape)
  rw [notifyWithin, handOut_attended h.1.attended]
  simp only [tell, engineReacts]
  rcases hrun : (indexShape number shape.id).run
    (s.recordNotice (.created shape)) with ⟨fault | _, t⟩
  · exact hdisturbed.missed hfit' (.inl rfl) hrun
  · exact hdisturbed.mended hfit' hrun

theorem Disturbed.changed {shape : Shape} (h : Disturbed number base shape s)
    (hfit : Fit number s) :
    Survives number (Reflects number base) (.changed shape) s :=
  (closed_reflects number base).survives (fun hagree span =>
    (closed_reflects number base).changed hagree span span shape) hfit h

/-- The box of a shape that is not on the page and holds nothing is dropped. -/
theorem Disturbed.unindexed {shape : Shape} (h : Disturbed number base shape s)
    (hfit : Fit number s) (hgone : s.document.shape? shape.id = none)
    (hchildren : s.document.children shape.id = []) :
    Reflects number base (unindexShape number shape.id s) := by
  obtain ⟨hwatched, hmirrors⟩ := h
  unfold unindexShape
  cases hindex : (s.engineAt number).index? with
  | none =>
    refine ⟨hwatched, hmirrors.imp id ?_⟩
    rintro ⟨index, hsome, _⟩
    rw [hindex] at hsome
    cases hsome
  | some index =>
    refine ⟨hwatched.mono rfl ⟨[], rfl⟩, hmirrors.imp (fun hmissed => hmissed.mono ⟨[], rfl⟩) ?_⟩
    rintro ⟨same, hsame, hmirrored⟩
    obtain rfl : index = same := Option.some.inj (hindex.symm.trans hsame)
    refine ⟨_, index_withIndex hfit.present _, fun id => ?_⟩
    by_cases hid : id = shape.id
    · simp [hid, Document.Mirrored, Document.bounds?, withIndex, hgone, GridIndex.box?_remove]
    · have hwithin : ¬ s.document.Within shape.id id := fun hwithin =>
        hid (hfit.sound.eq_of_within hchildren hwithin)
      exact (hmirrored id hwithin).congr rfl (by rw [GridIndex.box?_remove, if_neg hid])

theorem Disturbed.dropped {shape : Shape} (h : Disturbed number base shape s) (hfit : Fit number s)
    (hgone : s.document.shape? shape.id = none) (hchildren : s.document.children shape.id = []) :
    Reflects number base (engineDeleted number shape s) := by
  have hunindexed := h.unindexed hfit hgone hchildren
  have hfit' := ((unindexShape_reindexed number shape.id s).kept hfit.present).fit hfit
  unfold engineDeleted
  simp only
  split
  · have htwin : Twin number ((unindexShape number shape.id s).rank number) (Reflects number base)
        (Reflects number base)
        (eachPropagator number fun trigger => untrack number trigger shape.id)
        (eachPropagator number fun trigger => untrack number trigger shape.id) :=
      eachPropagator_twin fun trigger => .silent fun u hfit h =>
        ⟨.untrack hfit trigger shape.id, h.modifyPropagator hfit trigger _, rfl⟩
    exact (htwin _ hfit' hunindexed (Nat.le_refl _)).2.good
  · exact hunindexed

/-- A shape that was taken off the page is dropped from the index. -/
theorem Reflects.removed (h : Reflects number base s) (hfit : Fit number s) {shape : Shape}
    (hchildren : s.document.children shape.id = [])
    (hbindings : ∀ binding ∈ s.document.pageBindings,
      binding.connector ≠ shape.id ∧ binding.target ≠ shape.id) :
    Survives number (Reflects number base) (.deleted shape)
      (s.withDocument (s.document.remove shape.id)) := by
  intro span depth _
  have hsound := hfit.sound.remove hchildren hbindings
  have hstored := hfit.withDocument hsound rfl
  have hdisturbed := h.disturbed hfit hsound fun hne => Document.shape_remove_of_ne s.document hne
  have hempty : (s.document.remove shape.id).children shape.id = [] := by
    refine List.eq_nil_iff_forall_not_mem.mpr fun child hchild => ?_
    have hold := (Document.fewer_remove s.document shape.id).children hfit.sound hsound hchild
    rw [hchildren] at hold
    cases hold
  have hhand : notifyWithin span (depth + 1) (.deleted shape)
      (s.withDocument (s.document.remove shape.id)) = engineDeleted number shape
        ((s.withDocument (s.document.remove shape.id)).recordNotice (.deleted shape)) :=
    handOut_attended hdisturbed.1.attended _ _
  rw [hhand]
  exact (hdisturbed.recordNotice _).dropped ((Kept.record _ _).fit hstored)
    (Document.shape_remove_self _ _) hempty

/-- Whatever a host does, the index mirrors the page if nothing was missed. -/
theorem surviving_reflects (number : Nat) (base : List Step) (command : Command) :
    Surviving number (Reflects number base) command where
  counted issued hfit h := h.withDocument hfit (hfit.sound.counted issued) rfl
  created {s new shape document} hfit h hcreate := by
    have hsound := hfit.sound.create hcreate
    obtain ⟨hfree, _, issued, rfl⟩ := Document.create_ok hcreate
    refine (h.disturbed hfit hsound fun hne => ?_).created (hfit.withDocument hsound rfl)
    rw [Document.shape_append shape issued hfree, if_neg hne]
  bound _ {s _ _ _ _ _ document} hfit h hbind := by
    have hsound := hfit.sound.bind hbind
    obtain ⟨_, _, _, _, _, _, issued, rfl⟩ := Document.bind_ok hbind
    exact (h.withDocument hfit hsound rfl).survives (hfit.withDocument hsound rfl)
      (by simp [Notice.topic])
  unbound _ {s _ _ document} hfit h hunbind := by
    have hsound := hfit.sound.unbind hunbind
    obtain ⟨_, rfl⟩ := Document.unbind_ok hunbind
    exact (h.withDocument hfit hsound rfl).survives (hfit.withDocument hsound rfl)
      (by simp [Notice.topic])
  removed _ {s id shape now} hfit h hnow hstation hchildren hbindings := by
    obtain rfl : shape.id = id := (congrArg Station.id hstation).symm.trans (hfit.sound.id_eq hnow)
    exact h.removed hfit hchildren hbindings
  updated {s patch shape document} hfit h hupdate :=
    (h.update hfit hupdate).changed ((Kept.update hupdate).fit hfit)
  marked _ _ hfit h := h.withDocument hfit (hfit.sound.congr rfl rfl rfl) rfl
  looked _ hfit h := h.withDocument hfit (hfit.sound.congr rfl rfl rfl) rfl
  pointed event pointer hfit h := by
    have hsound : ({ (_ : Document) with pointer := pointer } : Document).Sound :=
      hfit.sound.congr rfl rfl rfl
    exact (h.withDocument hfit hsound rfl).survives (hfit.withDocument hsound rfl)
      (by simp [Notice.topic])
  passed {s} now hfit h := by
    have hclock : Reflects number base { s with clock := now } :=
      h.mono rfl ⟨[], rfl⟩ rfl fun _ => rfl
    exact hclock.survives ((Kept.clock s now).fit hfit) (by simp [Notice.topic])

/-! ## Starts -/

/-- Whether every box in the index of an engine is the one that its shape has now. -/
def Faithful (number : Nat) (s : Session) : Prop :=
  ∀ index, (s.engineAt number).index? = some index →
    ∀ id box, index.box? id = some box → s.document.bounds? id = .ok (some box)

/-- An index that is faithful and mirrors a shape has the very box of the shape. -/
theorem Faithful.exact (h : Faithful number s) {index : GridIndex Float}
    (hindex : (s.engineAt number).index? = some index) {id : String}
    (hmirrored : s.document.Mirrored index id) : s.document.bounds? id = .ok (index.box? id) := by
  unfold Document.Mirrored at hmirrored
  rcases hbounds : s.document.bounds? id with fault | (_ | box) <;> rw [hbounds] at hmirrored
  · exact hmirrored.elim
  · rw [hmirrored]
  · obtain ⟨held, hheld, _⟩ := hmirrored
    rw [← hbounds, hheld, h index hindex id held hheld]

theorem indexOne_faithful (hpresent : number < s.engines.length) (h : Faithful number s)
    (id : String) :
    Faithful number ((indexOne number id).run s).2 := by
  have hstored {next : GridIndex Float} (hnext : ∀ other box, next.box? other = some box →
      s.document.bounds? other = .ok (some box)) :
      Faithful number (s.withIndex number next) := by
    intro index hindex other box hbox
    rw [index_withIndex hpresent] at hindex
    cases hindex
    exact hnext other box hbox
  simp only [indexOne, Act.run_bind, Act.run_get]
  cases hindex : (s.engineAt number).index? with
  | none => exact h
  | some index =>
    simp only [Act.run_bind, Act.run_ofGeometry]
    rcases hbounds : s.document.bounds? id with fault | (_ | box)
    · exact h
    · refine hstored fun other box hbox => ?_
      rw [GridIndex.box?_remove] at hbox
      split at hbox
      · cases hbox
      · exact h index hindex other box hbox
    · have hinserted : ∀ other held, (index.insert id box).1.box? other = some held →
          s.document.bounds? other = .ok (some held) := by
        intro other held hbox
        by_cases hother : other = id
        · subst hother
          rcases GridIndex.of_box?_insert hbox with hold | rfl
          · exact h index hindex other held hold
          · exact hbounds
        · rw [GridIndex.box?_insert_of_ne hother] at hbox
          exact h index hindex other held hbox
      simp only [Except.mapError, Act.run_bind, Act.run_change]
      rcases hinsert : index.insert id box with ⟨next, fault | _⟩ <;> rw [hinsert] at hinserted <;>
        exact hstored hinserted

theorem forM_indexOne_faithful (hpresent : number < s.engines.length) (h : Faithful number s)
    (ids : List String) : Faithful number ((ids.forM (indexOne number)).run s).2 := by
  induction ids generalizing s with
  | nil => exact h
  | cons id rest ih =>
    have hone := indexOne_faithful hpresent h id
    have hreindexed := indexOne_reindexed number id s
    rw [Act.run_forM_cons]
    rcases hrun : (indexOne number id).run s with ⟨fault | _, t⟩ <;> rw [hrun] at hone hreindexed
    · exact hone
    · exact ih (hreindexed.present hpresent) hone

theorem indexShape_faithful (hsound : s.document.Sound) (hpresent : number < s.engines.length)
    (h : Faithful number s) (id : String) : Faithful number ((indexShape number id).run s).2 := by
  obtain ⟨family, _, hrun⟩ := run_indexShape number hsound id
  rw [hrun]
  exact forM_indexOne_faithful hpresent h family

/-- Shapes that are indexed in turn without a fault are mirrored, by their very boxes. -/
theorem forM_indexShape_of_ok (hsound : s.document.Sound) (hpresent : number < s.engines.length)
    {index : GridIndex Float} (hindex : (s.engineAt number).index? = some index)
    (hfaithful : Faithful number s) {shapes : List Shape}
    (hrun : (shapes.forM fun shape => indexShape number shape.id).run s = (.ok (), t)) :
    ∃ next, (t.engineAt number).index? = some next ∧ Faithful number t ∧
      (∀ shape ∈ shapes, s.document.Mirrored next shape.id) ∧
        ∀ id, s.document.Mirrored index id → s.document.Mirrored next id := by
  induction shapes generalizing s index with
  | nil =>
    cases hrun
    exact ⟨index, hindex, hfaithful, by simp, fun _ h => h⟩
  | cons shape rest ih =>
    have hreindexed := indexShape_reindexed hsound number shape.id
    have hfaithful' := indexShape_faithful hsound hpresent hfaithful shape.id
    rw [Act.run_forM_cons] at hrun
    rcases hone : (indexShape number shape.id).run s with ⟨fault | _, u⟩ <;>
      rw [hone] at hrun hreindexed hfaithful'
    · cases hrun
    · obtain ⟨middle, hmiddle, hwithin, hothers⟩ := indexShape_of_ok hsound hpresent hindex hone
      have hdocument : u.document = s.document := hreindexed.document_eq
      obtain ⟨next, hnext, hlast, hrest, hkeeps⟩ := ih (hdocument ▸ hsound)
        (hreindexed.present hpresent) hmiddle hfaithful' hrun
      rw [hdocument] at hrest hkeeps
      refine ⟨next, hnext, hlast, fun other hother => ?_, fun id hid => hkeeps id ?_⟩
      · rcases List.mem_cons.mp hother with rfl | hlater
        · exact hkeeps _ (hwithin _ .self)
        · exact hrest other hlater
      · -- What lies within the shape is indexed by its turn, which leaves the rest alone.
        by_cases hin : s.document.Within shape.id id
        · exact hwithin id hin
        · exact hid.congr rfl (hothers id hin)

/-- A session in which nobody is told of anything and the index of an engine is the given one. -/
def Still (number : Nat) (index : GridIndex Float) (s : Session) : Prop :=
  s.subscribers = [] ∧ (s.engineAt number).index? = some index

section Stillness

variable {index : GridIndex Float}

theorem Still.modifyEngine (h : Still number index s) (hfit : Fit number s)
    {change : Engine → Engine}
    (hindex : (change (s.engineAt number)).index? = (s.engineAt number).index?) :
    Still number index (s.modifyEngine number change) :=
  ⟨h.1, by rw [engineAt_modifyEngine hfit.present, hindex, h.2]⟩

theorem upkeep_still (number : Nat) (index : GridIndex Float) :
    Upkeep number (Still number index) fun _ => Still number index where
  called hgood _ := hgood
  guarded _ hfit hgood := hgood.modifyEngine hfit rfl
  cached _ _ hfit hgood _ _ := hgood.modifyEngine hfit rfl
  logged _ hgood := hgood
  marked _ _ _ hgood := hgood
  written _ hgood _ _ := hgood
  coloured _ hgood _ _ _ := hgood

theorem sorting_still (number : Nat) (index : GridIndex Float) (trigger : Trigger) (shape : Shape) :
    Sorting number (Still number index) (Still number index) trigger shape :=
  ⟨fun _ hgood _ => hgood, fun hfit hgood _ _ => hgood.modifyEngine hfit rfl,
    fun hfit hgood _ => hgood.modifyEngine hfit rfl⟩

/-- Where nobody is told of anything, changes leave the index alone. -/
theorem closed_still (number : Nat) (index : GridIndex Float) :
    Closed number (Still number index) fun _ => Still number index where
  upkeep := upkeep_still number index
  changed _ span width shape := by
    intro s hfit h hbound
    have hrecord : Still number index (s.recordNotice (.changed shape)) := h
    have hsilent (notify : Notify) (span : Nat) :
        handOut notify span (.changed shape) s = s.recordNotice (.changed shape) := by
      have hnone : (s.recordNotice (.changed shape)).subscribersOf Topic.changed = [] := by
        simp [subscribersOf, hrecord.1]
      simp only [handOut, Notice.topic, hnone, List.foldl_nil]
    rw [hsilent, hsilent]
    exact ⟨rfl, (Reached.refl h (Nat.le_refl _)).step (.record s _) hrecord rfl⟩

end Stillness

section Beginning

variable {triggers : List Trigger} {before started : Session}

/-- A start leaves an index with the very boxes that the page had before the connectors were looked
at. -/
theorem Started.exact_index (h : Started number triggers before started) :
    ∃ index, (started.engineAt number).index? = some index ∧
      ∀ id, before.document.bounds? id = .ok (index.box? id) := by
  obtain ⟨engine, indexed, depth, hstages⟩ := h.stages
  have hfit := hstages.fit_begun h
  have hreindexed := hstages.reindexed h
  have hkept := hreindexed.kept hfit.present
  obtain ⟨size, hbuilt⟩ := hstages.built
  have hempty : ((before.withEngine engine).engineAt number).index? = some (.empty size) := by
    rw [h.engineAt_begun, hbuilt]
    rfl
  have hfaithful : Faithful number (before.withEngine engine) := by
    intro index hindex id box hbox
    rw [hempty] at hindex
    cases hindex
    cases hbox
  obtain ⟨index, hindex, hfaithful', hmirrored, _⟩ :=
    forM_indexShape_of_ok hfit.sound hfit.present hempty hfaithful hstages.indexing
  -- Looking at the connectors tells nobody of anything.
  have hstill : Still number index indexed := ⟨hkept.subscribers.trans h.unheard, hindex⟩
  have hagree := (closed_still number index).agree depth (hstages.rank_le h)
  have hclassified := classifyAll_twin hagree (upkeep_still number index) before.document.pageShapes
    (fun trigger shape _ => sorting_still number index trigger shape) indexed (hkept.fit hfit)
    hstill (Nat.le_refl _)
  refine ⟨index, ?_, fun id => ?_⟩
  · rw [hstages.classification, engineAt_attend (hclassified.2.kept.fit (hkept.fit hfit)).present]
    exact hclassified.2.good.2
  · have hdocument : indexed.document = before.document := hreindexed.document_eq
    have hexact (hmirror : before.document.Mirrored index id) :
        before.document.bounds? id = .ok (index.box? id) := by
      rw [← hdocument] at hmirror ⊢
      exact hfaithful'.exact hindex hmirror
    refine hexact ?_
    cases hshape : before.document.shape? id with
    | some shape =>
      obtain ⟨hmem, rfl⟩ := h.sound.filed.mem_of_shape hshape
      exact hmirrored shape hmem
    | none =>
      have hnone : before.document.bounds? id = .ok none := by simp [Document.bounds?, hshape]
      simp only [Document.Mirrored, hnone]
      cases hbox : index.box? id with
      | none => rfl
      | some box =>
        have hheld := hfaithful' index hindex id box hbox
        rw [hdocument, hnone] at hheld
        cases hheld

/-- The index mirrors the page as long as nothing is missed, whatever a host does, exactly if the
connectors that ran while the engine was started moved nothing. -/
theorem Started.mirrors_iff (h : Started number triggers before started) :
    (∀ commands : List Command, (∀ command ∈ commands, command.isHost = true) →
      ¬ Since started.trail (Step.IsMiss number) (started.after commands) →
        Mirrors number (started.after commands)) ↔
      ∀ id, before.document.Unmoved started.document id := by
  obtain ⟨index, hindex, hexact⟩ := h.exact_index
  have hstart : Mirrors number started ↔ ∀ id, before.document.Unmoved started.document id := by
    constructor
    · rintro ⟨same, hsame, hmirrored⟩ id
      obtain rfl : index = same := Option.some.inj (hindex.symm.trans hsame)
      exact (Document.mirrored_iff_unmoved (hexact id)).mp (hmirrored id)
    · exact fun hunmoved => ⟨index, hindex, fun id =>
        (Document.mirrored_iff_unmoved (hexact id)).mpr (hunmoved id)⟩
  rw [← hstart]
  constructor
  · exact fun hall => hall [] (by simp) (not_since started _)
  · intro hmirrors commands hcommands hheard
    have hreflects : Reflects number started.trail started := ⟨⟨h.attended, [], rfl⟩, .inr hmirrors⟩
    exact (after_survives (fun command _ => surviving_reflects number started.trail command) h.fit
      hreflects hcommands).2.resolve_left hheard

/-- Two shapes, and a connector that moves the second one whenever a frame passes. -/
def drifting : Document :=
  let first := ((Document.empty (styleOf .defaults)).create { type := "geo", id := "a" }).2
  let second := (first.create { type := "geo", id := "b" }).2
  let text := "tick() { return {x : from.x + 7}; }"
  let third := (second.create { type := "arrow", id := "c", props := [("text", .str text)] }).2
  ((third.bind "c" "a" .start "").2.bind "c" "b" .finish "").2

theorem drifting_sound : drifting.Sound :=
  (((((Document.Sound.empty _).created _).created _).created _).bound ..).bound ..

/-- A connector that is run before it is tracked moves its target, and the index does not follow. -/
theorem mirror_lost_at_start :
    let before := Session.new .defaults drifting
    let started := (before.perform (.engine Trigger.all)).2
    Started 0 Trigger.all before started ∧
      ¬ ∀ commands : List Command, (∀ command ∈ commands, command.isHost = true) →
        ¬ Since started.trail (Step.IsMiss 0) (started.after commands) →
          Mirrors 0 (started.after commands) := by
  intro before started
  have hstarted : Started 0 Trigger.all before started :=
    started_of_isOk rfl rfl drifting_sound (by decide +kernel)
  refine ⟨hstarted, fun hmirrors => ?_⟩
  have hunmoved := hstarted.mirrors_iff.mp hmirrors "b"
  have hbefore : (drifting.bounds? "b").toOption.join.map (fun box => box.x == 7) = some false := by
    decide +kernel
  have hafter : (started.document.bounds? "b").toOption.join.map (fun box => box.x == 7) =
      some true := by
    decide +kernel
  have hdiffer : ((drifting.bounds? "b").toOption.join ==
    (started.document.bounds? "b").toOption.join) =
      false := by decide +kernel
  have hdocument : before.document = drifting := rfl
  rw [Document.Unmoved, hdocument] at hunmoved
  generalize drifting.bounds? "b" = first at hunmoved hbefore hdiffer
  generalize started.document.bounds? "b" = second at hunmoved hafter hdiffer
  rcases first with fault | (_ | box) <;> rcases second with fault | (_ | other) <;>
    try exact hunmoved
  · simp [Except.toOption] at hbefore
  · rcases hunmoved with rfl | hsame
    · exact absurd (hbefore.symm.trans hafter) (by decide)
    · exact absurd (hsame.symm.trans hdiffer) (by decide)

end Beginning

end Canvasflow.Session
