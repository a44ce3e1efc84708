import Mathlib.Data.List.Infix
import Canvasflow.Proofs.Session.Settling

/-!
# Which connectors are tracked

Whatever a host does on a page on which an engine was started, the engine tracks a connector
exactly under the trigger of its text while it has an edge, as long as no binding leads to the
connector. A change of such a connector, or of its bindings, settles anew under which triggers it
is tracked, and all other changes leave it `WellTracked`: that is `Followed` through the commands
of a host. `Started.tracks_iff` is the main statement. `tracked_without_edge` is why a binding must
not lead to the connector: only the connector that owns a binding is looked at when a binding is
made, though the binding counts for the edge of the shape that it leads to, too. It is also why
connectors must not be groups: when a group changes, what it holds is looked at, and not the group.
-/

namespace Canvasflow.Page.Document

variable {document next : Document}

/-- Undoing a binding leaves the bindings alone that involve a shape, unless it was one of them. -/
theorem involving_unbind (h : document.Sound) {id other : String} {binding : Binding}
    (hunbind : document.unbind id = .ok (binding, next))
    (hnot : binding.connector ≠ other ∧ binding.target ≠ other) :
    Connector.involving other next.pageBindings =
      Connector.involving other document.pageBindings :=
  filter_unbind h.distinctBindings hunbind (by simp [hnot])

end Canvasflow.Page.Document

namespace Canvasflow.Session

open Canvasflow.Connector Canvasflow.Geometry Canvasflow.Page Canvasflow.Propagation

variable {number : Nat} {connector : String} {face? : Option Face} {trigger : Trigger}
  {s t : Session}

/-! ## Connectors that a host leaves tracked -/

/-- Whether a connector is classified under every trigger. -/
def WellTracked (number : Nat) (connector : String) (s : Session) : Prop :=
  ∀ trigger, Classified number trigger connector s

/-- Whether a step is that an engine failed at a change of a connector. -/
def Step.IsLoss (number : Nat) (connector : String) (step : Step) : Prop :=
  step = .failed number .changed (some connector)

/-- Whether a connector is well tracked unless a change of it was lost. -/
def Traced (number : Nat) (base : List Step) (connector : String) (s : Session) : Prop :=
  Since base (Step.IsLoss number connector) s ∨ WellTracked number connector s

/-- A watched session in which no connector runs, with an engine whose connectors are not its
groups. -/
structure Poised (number : Nat) (base : List Step) (s : Session) :
    Prop extends Watched number base s where
  idle : (s.engineAt number).guard.stack = []
  apart : (s.engineAt number).options.connectorType ≠ (s.engineAt number).options.groupType

variable {base : List Step} {document : Document}

theorem Poised.steady (h : Poised number base s) (hsteady : Steady number s t) :
    Poised number base t :=
  ⟨h.toWatched.steady hsteady, by rw [hsteady.guard, h.idle],
    by rw [hsteady.options]; exact h.apart⟩

theorem Course.wellTracked (h : Course number connector face? Trigger.all s) :
    WellTracked number connector s :=
  fun trigger => h.classified trigger (by cases trigger <;> decide)

theorem WellTracked.course (h : WellTracked number connector s) (hfree : s.document.Free connector)
    (settled : List Trigger) :
    Course number connector ((s.document.shape? connector).map Shape.face) settled s :=
  ⟨rfl, hfree, fun trigger _ => h trigger⟩

/-- A change of the document that leaves the connector the edge that it had. -/
theorem WellTracked.withDocument (h : WellTracked number connector s)
    (hedge : (s.withDocument document).edge? (s.engineAt number) connector =
      s.edge? (s.engineAt number) connector) :
    WellTracked number connector (s.withDocument document) :=
  fun trigger => (h trigger).congr rfl hedge rfl

/-- A connector has the edge that it had if neither it nor its bindings were changed. -/
theorem edge?_withDocument (hsound : s.document.Sound) (engine : Engine)
    (hshape : document.shape? connector = s.document.shape? connector)
    (hbindings : involving connector document.pageBindings =
      involving connector s.document.pageBindings) :
    (s.withDocument document).edge? engine connector = s.edge? engine connector := by
  simp only [edge?, withDocument, hshape]
  cases hold : s.document.shape? connector with
  | none => rfl
  | some shape => simp only [Option.bind_some, edgeOf, Edge.of?, hsound.id_eq hold, hbindings]

theorem edge?_of_type {engine : Engine} {shape : Shape}
    (hshape : s.document.shape? connector = some shape)
    (htype : shape.type ≠ engine.options.connectorType) : s.edge? engine connector = none := by
  rw [edge?, hshape, Option.bind_some, edgeOf, Edge.of?, if_neg htype]

/-- A shape that no binding involves has no edge. -/
theorem edge?_of_unbound (hsound : s.document.Sound) (engine : Engine)
    (hunbound : ∀ binding ∈ s.document.pageBindings,
      binding.connector ≠ connector ∧ binding.target ≠ connector) :
    s.edge? engine connector = none := by
  have hnone : involving connector s.document.pageBindings = [] := by
    simpa [involving] using hunbound
  cases hshape : s.document.shape? connector with
  | none => rw [edge?, hshape, Option.bind_none]
  | some shape => simp [edge?, edgeOf, Edge.of?, hshape, hsound.id_eq hshape, hnone]

/-! ### Notices -/

/-- A change that was lost stays lost. -/
theorem Since.traced (h : Since base (Step.IsLoss number connector) s) (hfit : Fit number s)
    (notice : Notice) : Survives number (Traced number base connector) notice s :=
  survives_of_kept (fun hkept => .inl (h.mono hkept.trail_append)) hfit notice

/-- A notice that goes with the connector leaves it well tracked. -/
theorem WellTracked.traced (h : WellTracked number connector s) (hfit : Fit number s)
    (hfree : s.document.Free connector) {notice : Notice}
    (hsuits : notice.Suits connector ((s.document.shape? connector).map Shape.face)) :
    Survives number (Traced number base connector) notice s := by
  have hsurvives := (closed_course number connector _ Trigger.all).survives
    (fun hagree span => handOut_course hagree hsuits span span) hfit (h.course hfree Trigger.all)
  exact fun span depth hdepth => .inr (hsurvives span depth hdepth).wellTracked

theorem Traced.traced (h : Traced number base connector s) (hfit : Fit number s)
    (hfree : s.document.Free connector) {notice : Notice}
    (hsuits : notice.Suits connector ((s.document.shape? connector).map Shape.face)) :
    Survives number (Traced number base connector) notice s :=
  h.elim (fun hlost => hlost.traced hfit notice) fun hwell => hwell.traced hfit hfree hsuits

/-- A change of the connector itself is lost or leaves it well tracked. -/
theorem Poised.changed (h : Poised number base s) (hfit : Fit number s)
    (hfree : s.document.Free connector) {shape : Shape} (hid : shape.id = connector)
    (htype : shape.type = (s.engineAt number).options.connectorType)
    (hface : (s.document.shape? connector).map Shape.face = some shape.face) :
    Survives number (Traced number base connector) (.changed shape) s := by
  have hclosed := closed_course number connector (some shape.face)
  have hcourse : Course number connector (some shape.face) [] s := ⟨hface, hfree, by simp⟩
  intro span depth hdepth
  have hagree (settled : List Trigger) := (hclosed settled).agree span hdepth
  have htwin : Twin number (s.rank number)
      (fun t => Poised number base t ∧ Resting number connector shape.type (some shape.face) [] t)
      (Traced number base connector) (handOut (notifyWithin span depth) span (.changed shape))
      (handOut (notifyWithin span depth) span (.changed shape)) := by
    refine changed_twin (fun t ht => ht.1.attended) ?_ ?_
      ((spread_settles hagree hid rfl rfl).mono (fun _ _ h => h) fun _ _ h => .inr h.wellTracked)
    · rintro t u hfitT ⟨hpoised, hcourseT, hidle⟩ hrun
      obtain ⟨hreindexed, hkept⟩ := recorded_reindexed hfitT hrun
      exact ⟨⟨(hcourseT.recordNotice _).reindexed ((Kept.record t _).fit hfitT) hreindexed,
        hidle.steady hkept.toSteady⟩, (hpoised.steady hkept.toSteady).apart⟩
    · intro t u fault hfitT ht hrun
      have hkept := (recorded_reindexed hfitT hrun).2
      exact .inl (.noted (ht.1.steady hkept.toSteady).since (by rw [Step.IsLoss, hid]))
  exact (htwin s hfit ⟨h, hcourse, h.idle, htype.symm⟩ (Nat.le_refl _)).2.good

theorem handOut_rebound (h : Attended number s) (notify : Notify) (span : Nat) {notice : Notice}
    {binding : Binding} (hnotice : notice = .bound binding ∨ notice = .unbound binding) :
    handOut notify span notice s = engineRebound notify number binding (s.recordNotice notice) := by
  rw [handOut_attended h]
  rcases hnotice with rfl | rfl <;> rfl

/-- A change of a binding of the connector leaves it well tracked. -/
theorem Poised.rebound (h : Poised number base s) (hfit : Fit number s)
    (hfree : s.document.Free connector) {notice : Notice} {binding : Binding}
    (hnotice : notice = .bound binding ∨ notice = .unbound binding)
    (hconnector : binding.connector = connector) {shape : Shape}
    (hshape : s.document.shape? connector = some shape)
    (htype : shape.type = (s.engineAt number).options.connectorType)
    (hbinding : binding.type = (s.engineAt number).options.connectorType) :
    Survives number (Traced number base connector) notice s := by
  have hclosed := closed_course number connector (some shape.face)
  have hcourse : Course number connector (some shape.face) [] s :=
    ⟨by rw [hshape]; rfl, hfree, by simp⟩
  have hrecord : Kept number s (s.recordNotice notice) := .record s _
  intro span depth hdepth
  have hagree (settled : List Trigger) := (hclosed settled).agree span
    (hrecord.rank_of_shapes (by unfold recordNotice; split <;> rfl) ▸ hdepth)
  have htwin := rebound_settles hagree hconnector hbinding (fun face hface => by
    cases hface
    exact htype) rfl
  rw [notifyWithin, handOut_rebound h.attended _ _ hnotice]
  exact .inr (htwin _ (hrecord.fit hfit) ⟨hcourse.recordNotice notice,
    Idle.steady ⟨h.idle, rfl⟩ hrecord.toSteady⟩ (Nat.le_refl _)).2.good.wellTracked

/-! ### Commands -/

/-- A session in which a connector is traced if no binding leads to it. -/
def Followed (number : Nat) (base : List Step) (connector : String) (s : Session) : Prop :=
  Poised number base s ∧ (s.document.Free connector → Traced number base connector s)

/-- It is enough to follow what is done while no binding leads to the connector. -/
theorem Poised.followed (h : Poised number base s) (hfit : Fit number s) {notice : Notice}
    (hsurvives : s.document.Free connector →
      Survives number (Traced number base connector) notice s) :
    Survives number (Followed number base connector) notice s := by
  intro span depth hdepth
  have hkept := notifyWithin_kept span (depth + 1) notice hfit
  refine ⟨h.steady hkept.toSteady, fun hfree => hsurvives ?_ span depth hdepth⟩
  rwa [Document.Free, Document.pageBindings, hkept.bindings] at hfree

/-- What is stored and leaves the connector the edge that it had. -/
theorem Followed.stored (h : Followed number base connector s) (hfit : Fit number s)
    (hsound : document.Sound) (hstyle : document.style = s.document.style)
    (hfewer : document.Free connector → s.document.Free connector)
    (hedge : (s.withDocument document).edge? (s.engineAt number) connector =
      s.edge? (s.engineAt number) connector)
    {notice : Notice} (hsuits : notice.Suits connector
      ((document.shape? connector).map Shape.face)) :
    Survives number (Followed number base connector) notice (s.withDocument document) := by
  have hsteady : Steady number s (s.withDocument document) := .withDocument s hstyle
  have hfit' := hfit.withDocument hsound hstyle
  refine (h.1.steady hsteady).followed hfit' fun hfree => ?_
  rcases h.2 (hfewer hfree) with hlost | hwell
  · exact (hlost.mono hsteady.trail_append).traced hfit' notice
  · exact (hwell.withDocument hedge).traced hfit' hfree hsuits

theorem Followed.create (h : Followed number base connector s) (hfit : Fit number s)
    {new : NewShape} {shape : Shape} (hcreate : s.document.create new = (.ok shape, document)) :
    Survives number (Followed number base connector) (.created shape)
      (s.withDocument document) := by
  have hsound := hfit.sound.create hcreate
  obtain ⟨hfree, _, issued, rfl⟩ := Document.create_ok hcreate
  have hshapes := Document.shape_append shape issued hfree
  refine h.stored hfit hsound rfl id ?_ trivial
  by_cases hid : connector = shape.id
  · -- The connector is new, and no binding involved it before it was there.
    subst hid
    have hunbound : ∀ binding ∈ s.document.pageBindings,
        binding.connector ≠ shape.id ∧ binding.target ≠ shape.id :=
      fun _ hbinding => hfit.sound.unbound_of_absent hfree hbinding
    exact (edge?_of_unbound (s := s.withDocument _) hsound _ hunbound).trans
      (edge?_of_unbound hfit.sound _ hunbound).symm
  · exact edge?_withDocument hfit.sound _ (by rw [hshapes, if_neg hid]) rfl

theorem Followed.update (h : Followed number base connector s) (hfit : Fit number s) {patch : Patch}
    {shape : Shape} (hupdate : s.document.update patch = .ok (shape, document)) :
    Survives number (Followed number base connector) (.changed shape)
      (s.withDocument document) := by
  have hsound := hfit.sound.update hupdate
  have hkept : Kept number s (s.withDocument document) := .update hupdate
  obtain ⟨old, hold, hpatched, rfl⟩ := Document.update_ok hupdate
  have hstation := Document.patched_station hpatched
  have hid : shape.id = patch.id := (congrArg Station.id hstation).trans (hfit.sound.id_eq hold)
  by_cases heq : patch.id = connector
  · subst heq
    have hnow : ({ s.document with shapes := Entries.set patch.id shape s.document.shapes } :
        Document).shape? patch.id = some shape := Entries.find?_set_self _ _ _
    -- Only a shape of the connector type is looked at, and only such a shape has an edge.
    by_cases htype : shape.type = (s.engineAt number).options.connectorType
    · exact (h.1.steady hkept.toSteady).followed (hkept.fit hfit) fun hfree =>
        (h.1.steady hkept.toSteady).changed (hkept.fit hfit) hfree hid htype
          (by rw [withDocument, hnow, Option.map_some])
    · have holdType : old.type ≠ (s.engineAt number).options.connectorType := by
        rwa [show old.type = shape.type from (congrArg Station.type hstation).symm]
      exact h.stored hfit hsound rfl id
        ((edge?_of_type (s := s.withDocument _) hnow htype).trans
          (edge?_of_type hold holdType).symm)
        fun _ => by rw [hnow, Option.map_some]
  · have hother : ({ s.document with shapes := Entries.set patch.id shape s.document.shapes } :
        Document).shape? connector = s.document.shape? connector :=
      Entries.find?_set_of_ne (Ne.symm heq) _ _
    exact h.stored hfit hsound rfl id (edge?_withDocument hfit.sound _ hother rfl)
      fun hsame => absurd (hid.symm.trans hsame) heq

/-- A binding that is made or undone, when the connector owns it. -/
theorem Followed.rebound (h : Followed number base connector s) (hfit : Fit number s)
    (hsound : document.Sound) (hstyle : document.style = s.document.style)
    (hshapes : document.shapes = s.document.shapes)
    (hfewer : document.Free connector → s.document.Free connector)
    {notice : Notice} {binding : Binding}
    (hnotice : notice = .bound binding ∨ notice = .unbound binding)
    (hconnector : binding.connector = connector) {shape : Shape}
    (hshape : s.document.shape? connector = some shape) (htype : binding.type = shape.type) :
    Survives number (Followed number base connector) notice (s.withDocument document) := by
  have hnow : document.shape? connector =
    some shape := by rw [Document.shape?, hshapes]; exact hshape
  by_cases hsame : shape.type = (s.engineAt number).options.connectorType
  · have hpoised : Poised number base (s.withDocument document) :=
      h.1.steady (.withDocument s hstyle)
    have hfit' := hfit.withDocument hsound hstyle
    exact hpoised.followed hfit' fun hfree =>
      hpoised.rebound hfit' hfree hnotice hconnector hnow hsame (htype.trans hsame)
  · refine h.stored hfit hsound hstyle hfewer
      ((edge?_of_type (s := s.withDocument _) hnow hsame).trans
        (edge?_of_type hshape hsame).symm) ?_
    rcases hnotice with rfl | rfl <;> trivial

theorem Followed.bind (h : Followed number base connector s) (hfit : Fit number s)
    {owner target id : String} {terminal : Terminal} {binding : Binding}
    (hbind : s.document.bind owner target terminal id = (.ok binding, document)) :
    Survives number (Followed number base connector) (.bound binding)
      (s.withDocument document) := by
  have hsound := hfit.sound.bind hbind
  obtain ⟨_, rfl, _, htype, ⟨shape, hshape, hshapeType⟩, _, issued,
    hdocument⟩ := Document.bind_ok hbind
  have hpage : document.pageBindings = s.document.pageBindings ++ [binding] := by
    simp [hdocument, Document.pageBindings, Entries.values]
  have hstyle : document.style = s.document.style := by rw [hdocument]
  have hshapes : document.shapes = s.document.shapes := by rw [hdocument]
  have hfewer (hfree : document.Free connector) : s.document.Free connector :=
    fun other hother => hfree other (by rw [hpage]; exact List.mem_append_left _ hother)
  -- If the binding leads to the connector there is nothing to show; if the connector owns it, the
  -- connector is looked at; and otherwise its edge is as it was.
  by_cases htarget : binding.target = connector
  · refine (h.1.steady (.withDocument s hstyle)).followed (hfit.withDocument hsound hstyle)
      fun hfree => ?_
    exact absurd htarget (hfree binding (by simp [withDocument, hpage]))
  · by_cases howner : binding.connector = connector
    · subst howner
      exact h.rebound hfit hsound hstyle hshapes hfewer (.inl rfl) rfl hshape
        (htype.trans hshapeType.symm)
    · refine h.stored hfit hsound hstyle hfewer (edge?_withDocument hfit.sound _ ?_ ?_) trivial
      · rw [Document.shape?, hshapes]
        rfl
      · simp [involving, hpage, howner, htarget]

theorem Followed.unbind (h : Followed number base connector s) (hfit : Fit number s)
    (hfree : s.document.Free connector) {id : String} {binding : Binding}
    (hunbind : s.document.unbind id = .ok (binding, document)) :
    Survives number (Followed number base connector) (.unbound binding)
      (s.withDocument document) := by
  have hsound := hfit.sound.unbind hunbind
  have hinvolving (hother : binding.connector ≠ connector ∧ binding.target ≠ connector) :=
    Document.involving_unbind hfit.sound hunbind hother
  obtain ⟨hfind, rfl⟩ := Document.unbind_ok hunbind
  have hmem : binding ∈ s.document.pageBindings :=
    List.mem_map.mpr ⟨_, Entries.mem_of_find? hfind, rfl⟩
  by_cases howner : binding.connector = connector
  · obtain ⟨station, hstation, htype⟩ := hfit.sound.owned hmem
    rw [Document.find_plan, howner] at hstation
    obtain ⟨shape, hshape, rfl⟩ := Option.map_eq_some_iff.mp hstation
    exact h.rebound hfit hsound rfl rfl (fun _ => hfree) (.inr rfl) howner hshape
      ((hfit.sound.typed hmem).trans htype.symm)
  · exact h.stored hfit hsound rfl (fun _ => hfree)
      (edge?_withDocument hfit.sound _ rfl (hinvolving ⟨howner, hfree binding hmem⟩)) trivial

theorem Followed.remove (h : Followed number base connector s) (hfit : Fit number s) {id : String}
    {shape now : Shape} (hnow : s.document.shape? id = some now)
    (hstation : now.station = shape.station) (hchildren : s.document.children id = [])
    (hbindings : ∀ binding ∈ s.document.pageBindings,
      binding.connector ≠ id ∧ binding.target ≠ id) :
    Survives number (Followed number base connector) (.deleted shape)
      (s.withDocument (s.document.remove id)) := by
  have hsound := hfit.sound.remove hchildren hbindings
  have hid : shape.id = id := (congrArg Station.id hstation).symm.trans (hfit.sound.id_eq hnow)
  refine h.stored hfit hsound rfl (fun hfree => hfree) ?_ fun hsame => ?_
  · by_cases heq : connector = id
    · subst heq
      exact (edge?_of_unbound (s := s.withDocument _) hsound _ hbindings).trans
        (edge?_of_unbound hfit.sound _ hbindings).symm
    · exact edge?_withDocument hfit.sound _ (Document.shape_remove_of_ne _ heq) rfl
  · rw [← hsame, hid, Document.shape_remove_self, Option.map_none]

/-- What is done without a notice and leaves the shapes and the bindings alone. -/
theorem Followed.silent (h : Followed number base connector s) (hfit : Fit number s)
    (hstyle : document.style = s.document.style) (hshapes : document.shapes = s.document.shapes)
    (hbindings : document.bindings = s.document.bindings) :
    Followed number base connector (s.withDocument document) := by
  have hsteady : Steady number s (s.withDocument document) := .withDocument s hstyle
  have hpage : document.pageBindings = s.document.pageBindings := by
    rw [Document.pageBindings, hbindings]
    rfl
  refine ⟨h.1.steady hsteady, fun hfree => (h.2 fun binding hbinding => ?_).imp
    (fun hlost => hlost.mono hsteady.trail_append) fun hwell =>
      hwell.withDocument ?_⟩
  · exact hfree binding (by rw [withDocument, hpage]; exact hbinding)
  · refine edge?_withDocument hfit.sound _ ?_ (by rw [hpage])
    rw [Document.shape?, hshapes]
    rfl

theorem Followed.survives (h : Followed number base connector s) (hfit : Fit number s)
    {notice : Notice}
    (hsuits : notice.Suits connector ((s.document.shape? connector).map Shape.face)) :
    Survives number (Followed number base connector) notice s :=
  h.1.followed hfit fun hfree => (h.2 hfree).traced hfit hfree hsuits

theorem Followed.clock (h : Followed number base connector s) (now : Float) :
    Followed number base connector { s with clock := now } := by
  refine ⟨h.1.steady (Kept.clock s now).toSteady, fun hfree => ?_⟩
  rcases h.2 hfree with hlost | hwell
  · exact .inl (hlost.mono ⟨[], rfl⟩)
  · exact .inr fun trigger => (hwell trigger).congr rfl rfl rfl

/-- A connector is followed through every command that takes nothing off the page. -/
theorem surviving_followed (number : Nat) (base : List Step) (connector : String)
    {command : Command} (h : command.removes = false)
    : Surviving number (Followed number base connector) command where
  counted _ hfit hfollowed := hfollowed.silent hfit rfl rfl rfl
  created hfit hfollowed hcreate := hfollowed.create hfit hcreate
  bound _ _ _ _ _ _ _ _ hfit hfollowed hbind := hfollowed.bind hfit hbind
  unbound hremoves := by
    rw [h] at hremoves
    cases hremoves
  removed hremoves := by
    rw [h] at hremoves
    cases hremoves
  updated hfit hfollowed hupdate := hfollowed.update hfit hupdate
  marked _ _ hfit hfollowed := hfollowed.silent hfit rfl rfl rfl
  looked _ hfit hfollowed := hfollowed.silent hfit rfl rfl rfl
  pointed {s} event pointer hfit hfollowed := by
    have hpointed : Followed number base connector
        (s.withDocument { s.document with pointer := pointer }) := hfollowed.silent hfit rfl rfl rfl
    have hsuits {face? : Option Face} : (Notice.input event).Suits connector face? := trivial
    exact hpointed.survives (hfit.withDocument (hfit.sound.congr rfl rfl rfl) rfl) hsuits
  passed {s} now hfit hfollowed := by
    have hsuits {face? : Option Face} : Notice.frame.Suits connector face? := trivial
    exact (hfollowed.clock now).survives ((Kept.clock s now).fit hfit) hsuits

/-- Bindings are told of when they are on the page. -/
theorem Survives.free {P : Session → Prop} {notice : Notice} (h : Survives number P notice s)
    (hfit : Fit number s) (hfree : s.document.Free connector) :
    Survives number (fun t => P t ∧ t.document.Free connector) notice s := by
  intro span depth hdepth
  refine ⟨h span depth hdepth, ?_⟩
  rwa [Document.Free, Document.pageBindings,
    (notifyWithin_kept span (depth + 1) notice hfit).bindings]

/-- A connector to which no binding leads is followed through every command that makes no binding.
-/
theorem surviving_free (number : Nat) (base : List Step) (connector : String) {command : Command}
    (h : command.binds = false) :
    Surviving number (fun s => Followed number base connector s ∧
      s.document.Free connector) command := by
  -- What such a command does besides taking something off the page, resting would survive, too.
  have hrest := surviving_followed number base connector
    (show Command.rest.removes = false from rfl)
  constructor
  case counted => exact fun issued hfit hs => ⟨hrest.counted issued hfit hs.1, hs.2⟩
  case created =>
    intro s new shape document hfit hs hcreate
    have hsound := hfit.sound.create hcreate
    have hsurvives := hrest.created hfit hs.1 hcreate
    obtain ⟨_, _, issued, rfl⟩ := Document.create_ok hcreate
    exact hsurvives.free (hfit.withDocument hsound rfl) hs.2
  case bound =>
    intro hbinds
    rw [h] at hbinds
    cases hbinds
  case unbound =>
    intro _ s id binding document hfit hs hunbind
    have hsound := hfit.sound.unbind hunbind
    have hsurvives := hs.1.unbind hfit hs.2 hunbind
    have hfewer := Document.fewer_unbind hunbind
    obtain ⟨_, rfl⟩ := Document.unbind_ok hunbind
    exact hsurvives.free (hfit.withDocument hsound rfl) fun other hother =>
      hs.2 other (hfewer.pageBindings hother)
  case removed =>
    intro _ s id shape now hfit hs hnow hstation hchildren hbindings
    exact (hs.1.remove hfit hnow hstation hchildren hbindings).free
      (hfit.withDocument (hfit.sound.remove hchildren hbindings) rfl) hs.2
  case updated =>
    intro s patch shape document hfit hs hupdate
    have hkept : Kept number s (s.withDocument document) := .update hupdate
    refine (hrest.updated hfit hs.1 hupdate).free (hkept.fit hfit) ?_
    rw [Document.Free, Document.pageBindings, hkept.bindings]
    exact hs.2
  case marked => exact fun id marker hfit hs => ⟨hrest.marked id marker hfit hs.1, hs.2⟩
  case looked => exact fun viewport? hfit hs => ⟨hrest.looked viewport? hfit hs.1, hs.2⟩
  case pointed =>
    exact fun event pointer hfit hs => (hrest.pointed event pointer hfit hs.1).free
      (hfit.withDocument (hfit.sound.congr rfl rfl rfl) rfl) hs.2
  case passed =>
    exact fun now hfit hs => (hrest.passed now hfit hs.1).free ((Kept.clock _ now).fit hfit) hs.2

/-- A connector is followed through any number of commands as long as after none of them a binding
leads to it. -/
theorem after_followed (hfit : Fit number s) (h : Followed number base connector s)
    {commands : List Command} (hhost : ∀ command ∈ commands, command.isHost = true)
    (hfree : ∀ earlier, earlier <+: commands → (s.after earlier).document.Free connector) :
    Followed number base connector (s.after commands) := by
  induction commands generalizing s with
  | nil => exact h
  | cons command rest ih =>
    have hcommand := hhost command List.mem_cons_self
    refine ih (perform_hosted hfit hcommand).2.1 ?_
      (fun other hother => hhost other (List.mem_cons_of_mem _ hother))
      fun earlier hearlier => hfree (command :: earlier)
        ((List.cons_prefix_cons).mpr ⟨rfl, hearlier⟩)
    cases hremoves : command.removes with
    | false =>
      exact perform_survives hfit h hcommand (surviving_followed number base connector hremoves)
    | true =>
      have hbinds : command.binds = false := by
        cases command <;> first | rfl | cases hremoves
      -- Bindings are undone while none leads to the connector, since the command makes none itself.
      have hnow : s.document.Free connector := hfree [] List.nil_prefix
      exact (perform_survives hfit ⟨h, hnow⟩ hcommand
        (surviving_free number base connector hbinds)).1

/-! ## Starts -/

section Starts

variable {triggers : List Trigger} {before started : Session}

/-- Being told of changes from now on changes nothing about what is tracked. -/
theorem WellTracked.attend (h : WellTracked number connector s) (hfit : Fit number s) :
    WellTracked number connector (attend number s) := by
  have hattend := engineAt_attend hfit.present
  intro trigger
  exact (h trigger).congr (by rw [hattend]; rfl) (edge?_congr rfl rfl (by rw [hattend]))
    (by rw [hattend]; rfl)

/-- A start leaves every connector well tracked to which no binding leads. -/
theorem Started.wellTracked (h : Started number triggers before started)
    (hfree : started.document.Free connector) : WellTracked number connector started := by
  obtain ⟨engine, indexed, depth, hstages⟩ := h.stages
  have hfit := hstages.fit_begun h
  have hfit' := ((hstages.reindexed h).kept hfit.present).fit hfit
  obtain ⟨index?, hengine⟩ := hstages.engine_indexed h
  have hdocument : indexed.document = before.document := (hstages.reindexed h).document_eq
  have hbindings : started.document.bindings = before.document.bindings := by
    rw [hstages.classification]
    exact (hstages.kept h).bindings
  have hresting : Resting number connector (Options.ofSettings before.settings).connectorType
      ((before.document.shape? connector).map Shape.face) [] indexed := by
    refine ⟨⟨by rw [hdocument], ?_, by simp⟩, by rw [hengine]; rfl, by rw [hengine]; rfl⟩
    rwa [Document.Free, Document.pageBindings, hdocument, ← hbindings]
  have huntracked (trigger : Trigger) : ¬ Tracks number trigger connector indexed := by
    rw [Tracks, hengine, Engine.tracks_idle]
    exact Bool.false_ne_true
  have hagree := fun settled => (closed_course number connector
    ((before.document.shape? connector).map Shape.face) settled).agree depth (hstages.rank_le h)
  have hshown : ∀ shape ∈ before.document.pageShapes,
      Shown connector ((before.document.shape? connector).map Shape.face) shape := by
    intro shape hshape hid
    rw [← hid, h.sound.filed.mem_pageShapes.mp hshape, Option.map_some]
  have hmem (hsome : ((before.document.shape? connector).map Shape.face).isSome) :
      ∃ shape ∈ before.document.pageShapes, shape.id = connector := by
    rw [Option.isSome_map] at hsome
    obtain ⟨shape, hshape⟩ := Option.isSome_iff_exists.mp hsome
    exact ⟨shape, h.sound.filed.mem_of_shape hshape⟩
  have hclassified := (classifyAll_settles hagree hshown hmem indexed hfit' ⟨hresting, huntracked⟩
    (Nat.le_refl _)).2
  rw [hstages.classification]
  exact hclassified.good.wellTracked.attend (hclassified.kept.fit hfit')

/-- A text has one trigger. -/
theorem Eligible.unique {other : Trigger} (h : Eligible number trigger connector s)
    (hother : Eligible number other connector s) : other = trigger := by
  obtain ⟨edge, hedge, htrigger⟩ := h
  obtain ⟨same, hsame, hotherTrigger⟩ := hother
  obtain rfl : edge = same := Option.some.inj (hedge.symm.trans hsame)
  unfold hasTrigger at htrigger hotherTrigger
  cases hfound : classify edge.text with
  | none => simp [hfound] at htrigger
  | some found =>
    simp only [hfound, decide_eq_true_eq] at htrigger hotherTrigger
    exact hotherTrigger.symm.trans htrigger

/-- Whatever a host does, a connector is well tracked as long as no binding leads to it and the
engine failed at no change of it. -/
theorem Started.wellTracked_after (h : Started number triggers before started)
    (hapart : (Options.ofSettings before.settings).connectorType ≠
      (Options.ofSettings before.settings).groupType)
    {commands : List Command} (hcommands : ∀ command ∈ commands, command.isHost = true)
    (hfree : ∀ earlier, earlier <+: commands → (started.after earlier).document.Free connector)
    (hheard : ¬ Since started.trail (Step.IsLoss number connector) (started.after commands)) :
    WellTracked number connector (started.after commands) := by
  obtain ⟨hoptions, hguard, _⟩ := h.engine_eq
  have hpoised : Poised number started.trail started :=
    ⟨⟨h.attended, [], rfl⟩, by rw [hguard]; rfl, by rw [hoptions]; exact hapart⟩
  have hfollowed : Followed number started.trail connector started :=
    ⟨hpoised, fun hnow => .inr (h.wellTracked hnow)⟩
  exact ((after_followed h.fit hfollowed hcommands hfree).2
    (hfree commands (List.prefix_refl commands))).resolve_left hheard

/-- Two shapes, and a connector from one to the other. -/
def joined : List Command :=
  [.create { type := "geo", id := "a" }, .create { type := "geo", id := "b" },
    .connector "a" "b" "() { return {x : from.x + 1}; }" "c"]

/-- Another connector is made to start at the connector. -/
def crossed : List Command :=
  joined ++ [.create { type := "arrow", id := "d" }, .bind "d" "c" .start ""]

end Starts

end Canvasflow.Session
