import Canvasflow.Proofs.Propagation.Tracks
import Canvasflow.Proofs.Session.Survival

/-!
# Tracking through cascades

Whether a connector is tracked as it should be, and that cascades keep it so. A connector is
`Eligible` under a trigger when it has an edge and a text of the trigger, and `Classified` when it
is tracked accordingly. A cascade writes only where bindings lead, so as long as none leads to the
connector, neither its edge nor its text changes during a cascade: that is a `Course` of the
connector. On it the connector may be looked at any number of times, also while it runs, and
`closed_course` says that no run and no reaction puts out of order what is classified already.
-/

namespace Canvasflow.Page

/-- What of a shape decides whether it is an edge and which program it has. -/
structure Face where
  id : String
  type : String
  text : String
  deriving DecidableEq, Repr

/-- The face of a shape. -/
def Shape.face (shape : Shape) : Face :=
  ⟨shape.id, shape.type, shape.text⟩

/-- Whether no binding leads to a shape. -/
def Document.Free (document : Document) (id : String) : Prop :=
  ∀ binding ∈ document.pageBindings, binding.target ≠ id

instance (document : Document) (id : String) : Decidable (document.Free id) :=
  inferInstanceAs (Decidable (∀ binding ∈ document.pageBindings, binding.target ≠ id))

/-- The colour of a shape is not part of its face. -/
theorem Document.face_recoloured {document : Document} {shape changed : Shape} {marker : Marker}
    {patch : Patch} (h : document.recoloring? shape marker = some patch)
    (hpatched : patched shape patch = .ok changed) : changed.face = shape.face := by
  rw [patched_recoloring h hpatched]
  simp only [Shape.face, Shape.text, Entries.find?_set_of_ne (show "text" ≠ "color" by decide)]

end Canvasflow.Page

namespace Canvasflow.Session

open Canvasflow.Connector Canvasflow.Geometry Canvasflow.Page Canvasflow.Propagation

variable {number : Nat} {connector : String} {trigger : Trigger} {s t : Session}

/-- Whether an engine tracks a connector under a trigger. -/
def Tracks (number : Nat) (trigger : Trigger) (connector : String) (s : Session) : Prop :=
  (s.engineAt number).tracks trigger connector = true

instance (number : Nat) (trigger : Trigger) (connector : String) (s : Session) :
    Decidable (Tracks number trigger connector s) :=
  inferInstanceAs (Decidable ((s.engineAt number).tracks trigger connector = true))

/-- Whether a connector is on the page with an edge and a text of a trigger. -/
def Eligible (number : Nat) (trigger : Trigger) (connector : String) (s : Session) : Prop :=
  ∃ edge, s.edge? (s.engineAt number) connector = some edge ∧ hasTrigger edge.text trigger = true

instance (number : Nat) (trigger : Trigger) (connector : String) (s : Session) :
    Decidable (Eligible number trigger connector s) :=
  decidable_of_iff ((s.edge? (s.engineAt number) connector).any (hasTrigger ·.text trigger) = true)
    (Option.any_eq_true _ _)

/-- Whether a connector is tracked under a trigger as it should be: only if it is eligible, then by
its edge, and if it is eligible, unless it has to run once before that. -/
structure Classified (number : Nat) (trigger : Trigger) (connector : String)
    (s : Session) : Prop where
  eligible : Tracks number trigger connector s → Eligible number trigger connector s
  followed : Tracks number trigger connector s → ∀ edge,
    s.edge? (s.engineAt number) connector = some edge →
      (s.engineAt number).Follows trigger connector edge
  complete : trigger ∈ (s.engineAt number).triggers → validates trigger = false →
    Eligible number trigger connector s → Tracks number trigger connector s

/-! ## Faces and edges -/

/-- An edge is a matter of the face of its connector and of the bindings. -/
theorem edgeOf_congr {shape other : Shape} (hface : other.face = shape.face)
    (hbindings : t.document.bindings = s.document.bindings)
    (hoptions : (t.engineAt number).options = (s.engineAt number).options) :
    t.edgeOf (t.engineAt number) other = s.edgeOf (s.engineAt number) shape := by
  simp only [Shape.face, Face.mk.injEq] at hface
  obtain ⟨hid, htype, htext⟩ := hface
  simp only [edgeOf, Edge.of?, Document.pageBindings, hid, htype, htext, hbindings, hoptions]

/-- The edge of a connector on the page is that of any shape with its face. -/
theorem edge?_of_face {shape : Shape}
    (hface : (s.document.shape? connector).map Shape.face = some shape.face) :
    s.edge? (s.engineAt number) connector = s.edgeOf (s.engineAt number) shape := by
  obtain ⟨now, hnow, hsame⟩ := Option.map_eq_some_iff.mp hface
  rw [edge?, hnow, Option.bind_some]
  exact edgeOf_congr hsame rfl rfl

theorem eligible_iff_of_face {shape : Shape}
    (hface : (s.document.shape? connector).map Shape.face = some shape.face) :
    Eligible number trigger connector s ↔
      ∃ edge, s.edgeOf (s.engineAt number) shape = some edge ∧
        hasTrigger edge.text trigger = true := by
  rw [Eligible, edge?_of_face hface]

theorem edge?_congr
    (hface : (t.document.shape? connector).map Shape.face =
      (s.document.shape? connector).map Shape.face)
    (hbindings : t.document.bindings = s.document.bindings)
    (hoptions : (t.engineAt number).options = (s.engineAt number).options) :
    t.edge? (t.engineAt number) connector = s.edge? (s.engineAt number) connector := by
  cases hshape : s.document.shape? connector with
  | none =>
    rw [hshape, Option.map_none, Option.map_eq_none_iff] at hface
    rw [edge?, edge?, hface, hshape]
    rfl
  | some shape =>
    rw [hshape, Option.map_some] at hface
    rw [edge?_of_face hface, edge?, hshape, Option.bind_some]
    exact edgeOf_congr rfl hbindings hoptions

theorem eligible_congr (h : t.edge? (t.engineAt number) connector =
      s.edge? (s.engineAt number) connector) :
    Eligible number trigger connector t ↔ Eligible number trigger connector s := by
  rw [Eligible, Eligible, h]

/-- No connector is tracked under a trigger that the engine does not have. -/
theorem classified_of_absent (h : trigger ∉ (s.engineAt number).triggers) :
    Classified number trigger connector s :=
  ⟨fun htracks => absurd (Engine.mem_triggers_of_tracks htracks) h,
    fun htracks => absurd (Engine.mem_triggers_of_tracks htracks) h, fun hmem => absurd hmem h⟩

/-- Classified is what is listened to as before and has the edge that it had. -/
theorem Classified.congr (h : Classified number trigger connector s)
    (hlisteners : (t.engineAt number).listeners? trigger = (s.engineAt number).listeners? trigger)
    (hedge : t.edge? (t.engineAt number) connector = s.edge? (s.engineAt number) connector)
    (htriggers : (t.engineAt number).triggers = (s.engineAt number).triggers) :
    Classified number trigger connector t := by
  have htracks : Tracks number trigger connector t ↔ Tracks number trigger connector s := by
    rw [Tracks, Tracks, Engine.tracks_eq_any, Engine.tracks_eq_any, hlisteners]
  refine ⟨fun htracked => (eligible_congr hedge).mpr (h.eligible (htracks.mp htracked)),
    fun htracked edge hnow => ?_, fun hmem hvalidates hnow => htracks.mpr
      (h.complete (htriggers ▸ hmem) hvalidates ((eligible_congr hedge).mp hnow))⟩
  exact (h.followed (htracks.mp htracked) edge (hedge ▸ hnow)).congr hlisteners

/-- Under a trigger that does not validate, tracked is what is eligible. -/
theorem Classified.tracks_iff_eligible (h : Classified number trigger connector s)
    (hvalidates : validates trigger = false) :
    Tracks number trigger connector s ↔
      trigger ∈ (s.engineAt number).triggers ∧ Eligible number trigger connector s :=
  ⟨fun htracks => ⟨Engine.mem_triggers_of_tracks htracks, h.eligible htracks⟩,
    fun ⟨hmem, heligible⟩ => h.complete hmem hvalidates heligible⟩

/-! ## Courses -/

/-- A stage at which no binding leads to a connector, which has a certain face if it is on the
page, and is classified under some triggers. -/
structure Course (number : Nat) (connector : String) (face? : Option Face) (settled : List Trigger)
    (s : Session) : Prop where
  face : (s.document.shape? connector).map Shape.face = face?
  free : s.document.Free connector
  classified : ∀ trigger ∈ settled, Classified number trigger connector s

/-- Whether a shape that was told of shows the face of a connector, if it is that connector. -/
def Shown (connector : String) (face? : Option Face) (shape : Shape) : Prop :=
  shape.id = connector → face? = some shape.face

/-- What is due on a course between a change of a shape and its notice. -/
def CourseDue (number : Nat) (connector : String) (face? : Option Face) (settled : List Trigger)
    (shape : Shape) (s : Session) : Prop :=
  Course number connector face? settled s ∧ Shown connector face? shape

variable {face? : Option Face} {settled : List Trigger}

/-- What is listened to and on the page as before goes on its course. -/
theorem Course.congr (h : Course number connector face? settled s)
    (hface : (t.document.shape? connector).map Shape.face =
      (s.document.shape? connector).map Shape.face)
    (hbindings : t.document.bindings = s.document.bindings)
    (hoptions : (t.engineAt number).options = (s.engineAt number).options)
    (htriggers : (t.engineAt number).triggers = (s.engineAt number).triggers)
    (hlisteners : ∀ trigger, (t.engineAt number).listeners? trigger =
      (s.engineAt number).listeners? trigger) :
    Course number connector face? settled t where
  face := hface.trans h.face
  free := by
    have hfree := h.free
    rwa [Document.Free, Document.pageBindings, ← hbindings] at hfree
  classified trigger hmem := (h.classified trigger hmem).congr (hlisteners trigger)
    (edge?_congr hface hbindings hoptions) htriggers

theorem Course.mono {fewer : List Trigger} (h : Course number connector face? settled s)
    (hfewer : ∀ trigger ∈ fewer, trigger ∈ settled) : Course number connector face? fewer s :=
  ⟨h.face, h.free, fun trigger hmem => h.classified trigger (hfewer trigger hmem)⟩

/-- What of the engine neither its options nor its triggers nor its listeners depend on. -/
theorem Course.modifyEngine (h : Course number connector face? settled s) (hfit : Fit number s)
    {change : Engine → Engine}
    (hoptions : (change (s.engineAt number)).options = (s.engineAt number).options)
    (hpropagators : (change (s.engineAt number)).propagators = (s.engineAt number).propagators) :
    Course number connector face? settled (s.modifyEngine number change) := by
  have hengine := engineAt_modifyEngine hfit.present change
  refine h.congr rfl rfl (by rw [hengine, hoptions]) ?_ fun trigger => ?_
  · simp only [hengine, Engine.triggers, hpropagators]
  · simp only [hengine, Engine.listeners?, Engine.propagator?, hpropagators]

/-- A change of a propagator that keeps its listeners. -/
theorem Course.modifyPropagator (h : Course number connector face? settled s) (hfit : Fit number s)
    (trigger : Trigger) {change : Propagator → Propagator}
    (htrigger : ∀ propagator, (change propagator).trigger = propagator.trigger)
    (hlisteners : ∀ propagator, (change propagator).listeners = propagator.listeners) :
    Course number connector face? settled (s.modifyPropagator number trigger change) := by
  have hengine : (s.modifyPropagator number trigger change).engineAt number =
      (s.engineAt number).modify trigger change := engineAt_modifyEngine hfit.present _
  refine h.congr rfl rfl (by rw [hengine]; rfl) ?_ fun other => ?_
  · rw [hengine, modify_triggers _ trigger htrigger]
  · rw [hengine, Engine.listeners?_modify_of_eq htrigger hlisteners]

/-- A patch that does not change the face of the connector. -/
theorem Course.update (h : Course number connector face? settled s) (hfit : Fit number s)
    {patch : Patch} {shape : Shape} {document : Document}
    (hupdate : s.document.update patch = .ok (shape, document))
    (hsame : patch.id = connector → face? = some shape.face) :
    CourseDue number connector face? settled shape (s.withDocument document) := by
  obtain ⟨old, hold, hpatched, rfl⟩ := Document.update_ok hupdate
  have hid : shape.id = patch.id :=
    (congrArg Station.id (Document.patched_station hpatched)).trans (hfit.sound.id_eq hold)
  refine ⟨h.congr ?_ rfl rfl rfl fun _ => rfl, fun heq => hsame (hid.symm.trans heq)⟩
  rw [h.face]
  by_cases heq : patch.id = connector
  · rw [hsame heq, ← heq]
    simp [withDocument, Document.shape?]
  · rw [← h.face]
    simp [withDocument, Document.shape?, Entries.find?_set_of_ne (Ne.symm heq)]

theorem Course.recordNotice (h : Course number connector face? settled s) (notice : Notice) :
    Course number connector face? settled (s.recordNotice notice) := by
  unfold Session.recordNotice
  split
  · exact h.congr rfl rfl rfl rfl fun _ => rfl
  · exact h

/-- Runs write only where bindings lead, and the colour of a connector is not part of its face. -/
theorem upkeep_course (number : Nat) (connector : String) (face? : Option Face)
    (settled : List Trigger) :
    Upkeep number (Course number connector face? settled)
      (CourseDue number connector face? settled) where
  called hgood _ := hgood.congr rfl rfl rfl rfl fun _ => rfl
  guarded _ hfit hgood :=
    (hgood.modifyEngine hfit rfl rfl).congr rfl rfl rfl rfl fun _ => rfl
  cached trigger _ hfit hgood htrigger hlisteners :=
    hgood.modifyPropagator hfit trigger htrigger hlisteners
  logged _ hgood := hgood.congr rfl rfl rfl rfl fun _ => rfl
  marked _ _ _ hgood := hgood.congr rfl rfl rfl rfl fun _ => rfl
  written hfit hgood hbinding hupdate := by
    obtain ⟨binding, hmem, htarget⟩ := hbinding
    exact hgood.update hfit hupdate fun heq => absurd (htarget.trans heq) (hgood.free binding hmem)
  coloured {s id marker old shape patch document} hfit hgood hold hpatch hupdate := by
    refine hgood.update hfit hupdate fun heq => ?_
    obtain ⟨same, hsame, hpatched, _⟩ := Document.update_ok hupdate
    have hid : patch.id = id := by
      rw [(Document.recoloring_some hpatch).1]
      exact hfit.sound.id_eq hold
    rw [hid, hold, Option.some.injEq] at hsame
    subst hsame
    rw [← hgood.face, ← heq, hid, hold, Option.map_some, Document.face_recoloured hpatch hpatched]

/-! ## Tracking and untracking -/

theorem engineAt_track (hfit : Fit number s) (trigger : Trigger) (edge : Edge) :
    (track number trigger edge s).engineAt number =
    (s.engineAt number).modify trigger fun propagator =>
      { propagator with listeners := propagator.listeners.add edge } :=
  engineAt_modifyEngine hfit.present _

theorem engineAt_untrack (hfit : Fit number s) (trigger : Trigger) (tracked : String) :
    (untrack number trigger tracked s).engineAt number =
      (s.engineAt number).modify trigger fun propagator => propagator.untrack tracked :=
  engineAt_modifyEngine hfit.present _

/-- A connector that is tracked by its edge is classified under the trigger. -/
theorem Course.track {more : List Trigger} (h : Course number connector face? settled s)
    (hfit : Fit number s) {shape : Shape} (hshown : Shown connector face? shape) {edge : Edge}
    (hedge : s.edgeOf (s.engineAt number) shape = some edge)
    (htrigger : hasTrigger edge.text trigger = true)
    (hmore : ∀ other ∈ more, other ∈ settled ∨ other = trigger ∧ shape.id = connector) :
    Course number connector face? more (track number trigger edge s) := by
  have hkept : Kept number s (Session.track number trigger edge s) := .track hfit trigger edge
  have hconnector := (Edge.of?_some hedge).2.1
  have htracks (other : Trigger) : Tracks number other connector
    (Session.track number trigger edge s) ↔
      Tracks number other connector s ∨
        other = trigger ∧ connector = shape.id ∧ trigger ∈ (s.engineAt number).triggers := by
    rw [Tracks, engineAt_track hfit, Engine.tracks_add, hconnector, Tracks]
  have hsame : (Session.track number trigger edge s).edge?
      ((Session.track number trigger edge s).engineAt number) connector =
        s.edge? (s.engineAt number) connector := edge?_congr rfl rfl hkept.options
  have hown (hid : shape.id = connector) : s.edge? (s.engineAt number) connector = some edge :=
    (edge?_of_face (h.face.trans (hshown hid))).trans hedge
  refine ⟨h.face, h.free, fun other hother =>
    ⟨fun htracked => ?_, fun htracked now hnow => ?_, fun hmem hvalidates hnow => ?_⟩⟩
  · rw [eligible_congr hsame]
    -- What is tracked was tracked before, or is what was added now.
    rcases (htracks other).mp htracked with hold | ⟨rfl, hid, _⟩
    · rcases hmore other hother with hin | ⟨rfl, hid⟩
      · exact (h.classified other hin).eligible hold
      · exact ⟨edge, hown hid, htrigger⟩
    · exact ⟨edge, hown hid.symm, htrigger⟩
  · rw [engineAt_track hfit]
    rw [hsame] at hnow
    by_cases hnew : other = trigger ∧ connector = edge.connector
    · obtain ⟨rfl, rfl⟩ := hnew
      obtain rfl := Option.some.inj ((hown hconnector.symm).symm.trans hnow)
      exact Engine.follows_added (hkept.triggers ▸ Engine.mem_triggers_of_tracks htracked)
    · refine Engine.Follows.add ?_ hnew
      rw [hconnector] at hnew
      have hold := ((htracks other).mp htracked).resolve_right fun hadded =>
        hnew ⟨hadded.1, hadded.2.1⟩
      have hin := (hmore other hother).resolve_right fun hadded => hnew ⟨hadded.1, hadded.2.symm⟩
      exact (h.classified other hin).followed hold now hnow
  · rw [htracks]
    rw [hkept.triggers] at hmem
    rcases hmore other hother with hin | ⟨rfl, hid⟩
    · exact .inl
        ((h.classified other hin).complete hmem hvalidates ((eligible_congr hsame).mp hnow))
    · exact .inr ⟨rfl, hid.symm, hmem⟩

/-- A connector that is not tracked is classified under a trigger that validates, or under which it
is not eligible. -/
theorem Course.untrack {more : List Trigger} (h : Course number connector face? settled s)
    (hfit : Fit number s) {id : String}
    (hreason : id = connector → validates trigger = true ∨ ¬ Eligible number trigger connector s)
    (hmore : ∀ other ∈ more, other ∈ settled ∨ other = trigger ∧ id = connector) :
    Course number connector face? more (untrack number trigger id s) := by
  have hkept : Kept number s (Session.untrack number trigger id s) := .untrack hfit trigger id
  have htracks (other : Trigger) : Tracks number other connector
    (Session.untrack number trigger id s) ↔
      Tracks number other connector s ∧ ¬ (other = trigger ∧ connector = id) := by
    rw [Tracks, engineAt_untrack hfit, Engine.tracks_untrack, Tracks]
  have hsame : (Session.untrack number trigger id s).edge?
      ((Session.untrack number trigger id s).engineAt number) connector =
        s.edge? (s.engineAt number) connector := edge?_congr rfl rfl hkept.options
  -- Whatever is tracked now was classified already.
  have hbefore {other : Trigger} (hother : other ∈ more)
      (htracked : Tracks number other connector (Session.untrack number trigger id s)) :
      Classified number other connector s ∧ Tracks number other connector s ∧
        ¬ (other = trigger ∧ connector = id) := by
    obtain ⟨hold, hne⟩ := (htracks other).mp htracked
    have hin := (hmore other hother).resolve_right fun hdropped =>
      hne ⟨hdropped.1, hdropped.2.symm⟩
    exact ⟨h.classified other hin, hold, hne⟩
  refine ⟨h.face, h.free, fun other hother =>
    ⟨fun htracked => ?_, fun htracked now hnow => ?_, fun hmem hvalidates hnow => ?_⟩⟩
  · obtain ⟨hclassified, hold, _⟩ := hbefore hother htracked
    exact (eligible_congr hsame).mpr (hclassified.eligible hold)
  · obtain ⟨hclassified, hold, hne⟩ := hbefore hother htracked
    rw [engineAt_untrack hfit]
    exact (hclassified.followed hold now (hsame ▸ hnow)).untrack hne
  · have hold := (eligible_congr hsame).mp hnow
    -- What should stay tracked is not what was dropped now.
    have hne : ¬ (other = trigger ∧ connector = id) := by
      rintro ⟨rfl, rfl⟩
      rcases hreason rfl with hvalid | hineligible
      · rw [hvalid] at hvalidates
        cases hvalidates
      · exact hineligible hold
    rw [hkept.triggers] at hmem
    rcases hmore other hother with hin | ⟨rfl, rfl⟩
    · exact (htracks other).mpr ⟨(h.classified other hin).complete hmem hvalidates hold, hne⟩
    · exact absurd ⟨rfl, rfl⟩ hne

/-- Why a connector is not tracked is why it is not eligible. -/
theorem Course.reason (h : Course number connector face? settled s) {shape : Shape}
    (hshown : Shown connector face? shape)
    (hreason : validates trigger = true ∨ ∀ edge, s.edgeOf (s.engineAt number) shape = some edge →
      hasTrigger edge.text trigger = false) (hid : shape.id = connector) :
    validates trigger = true ∨ ¬ Eligible number trigger connector s := by
  refine hreason.imp id fun hnone heligible => ?_
  obtain ⟨edge, hedge, htrigger⟩ := (eligible_iff_of_face (h.face.trans (hshown hid))).mp heligible
  rw [hnone edge hedge] at htrigger
  cases htrigger

/-- What is classified stays so wherever it is decided anew whether a connector is tracked. -/
theorem sorting_course (trigger : Trigger) (settled : List Trigger) {shape : Shape}
    (hshown : Shown connector face? shape) :
    Sorting number (Course number connector face? settled) (Course number connector face? settled)
      trigger shape where
  passed _ h _ := h
  tracked hfit h hedge htrigger := h.track hfit hshown hedge htrigger fun _ hmem => .inl hmem
  untracked hfit h hreason := h.untrack hfit (h.reason hshown hreason) fun _ hmem => .inl hmem

/-! ## Notices -/

/-- Whether a notice goes with a connector of a certain face. -/
def Notice.Suits (connector : String) (face? : Option Face) : Notice → Prop
  | .changed shape => Shown connector face? shape
  | .deleted shape => shape.id = connector → face? = none
  | _ => True

theorem Course.reindexed (h : Course number connector face? settled s) (hfit : Fit number s)
    (hreindexed : Reindexed number s t) : Course number connector face? settled t := by
  rcases hreindexed with rfl | ⟨index, rfl⟩
  · exact h
  · exact h.modifyEngine hfit rfl rfl

section Reactions

variable {first second : Notify} {bound : Nat}

theorem engineReacts_course
    (hagree : Agree number (Course number connector face? settled)
      (CourseDue number connector face? settled) first second bound)
    {notice : Notice} (hsuits : notice.Suits connector face?) :
    ActTwin number bound (Course number connector face? settled)
      (Course number connector face? settled)
      (engineReacts first number notice) (engineReacts second number notice) := by
  have hupkeep := upkeep_course number connector face? settled
  have hindex {s t : Session} (hfit : Fit number s) (h : Course number connector face? settled s)
      (hreindexed : Reindexed number s t) : Course number connector face? settled t :=
    h.reindexed hfit hreindexed
  have hrebound (binding : Binding) : Twin number bound (Course number connector face? settled)
      (Course number connector face? settled) (engineRebound first number binding)
      (engineRebound second number binding) := by
    refine engineRebound_twin hagree hupkeep fun hfit h hshape trigger =>
      sorting_course trigger settled ?_
    intro hid
    rw [← h.face, ← hid, hfit.sound.id_eq hshape, hshape, Option.map_some]
  cases notice with
  | created shape => exact indexShape_twin hindex shape.id
  | changed shape =>
    exact engineChanged_twin hagree hupkeep hindex fun trigger =>
      sorting_course trigger settled hsuits
  | deleted shape =>
    refine .change (engineDeleted_twin hindex shape fun trigger hfit h => ?_)
    refine h.untrack hfit (fun hid => .inr ?_) fun _ hmem => .inl hmem
    rintro ⟨edge, hedge, _⟩
    obtain ⟨now, hnow, _⟩ := Option.bind_eq_some_iff.mp hedge
    have hface := h.face
    rw [hsuits hid, hnow] at hface
    cases hface
  | bound binding => exact .change (hrebound binding)
  | unbound binding => exact .change (hrebound binding)
  | input event => exact input_twin hagree hupkeep event
  | frame => exact frame_twin hagree hupkeep fun hfit h => h.modifyEngine hfit rfl rfl

theorem handOut_course
    (hagree : Agree number (Course number connector face? settled)
      (CourseDue number connector face? settled) first second bound)
    {notice : Notice} (hsuits : notice.Suits connector face?) (span width : Nat) :
    Twin number bound (Course number connector face? settled)
      (Course number connector face? settled)
      (handOut first span notice) (handOut second width notice) :=
  handOut_twin (fun _ h => h.recordNotice notice) (tell_twin (engineReacts_course hagree hsuits)
    (fun _ h => h.congr rfl rfl rfl rfl fun _ => rfl) span width)

end Reactions

/-- Cascades stay on course. -/
theorem closed_course (number : Nat) (connector : String) (face? : Option Face)
    (settled : List Trigger) :
    Closed number (Course number connector face? settled)
      (CourseDue number connector face? settled) where
  upkeep := upkeep_course number connector face? settled
  changed hagree span width shape := fun s hfit hdue hbound =>
    have hsuits : (Notice.changed shape).Suits connector face? := hdue.2
    handOut_course hagree hsuits span width s hfit hdue.1 hbound

end Canvasflow.Session
