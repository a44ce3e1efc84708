import Canvasflow.Proofs.Session.Reactive

/-!
# Editing a page that others watch

What the commands do that edit a page, in sessions where observers only listen. A session is `Calm`
when its page is whole and no observer in it answers; engines may react. Every command leaves a calm
session, whether it succeeds or fails on the way. The removal of a shape is followed exactly:
`deleteShape_clears` says that it succeeds on every shape of the page, and takes off what lies
within the shape and nothing else. `edits_keep_whole` is the main statement.
-/

namespace Canvasflow.Page.Document

variable {document : Document} {id : String}

/-- A page without the bindings that involve a shape. -/
def loosened (document : Document) (id : String) : Document :=
  { document with
    bindings := document.bindings.filter fun entry =>
      entry.2.connector ≠ id ∧ entry.2.target ≠ id }

/-- A shape goes when it was loosened and then taken off. -/
theorem remove_loosened (document : Document) (id : String) :
    (document.loosened id).remove id = document.without [id] := by
  simp [loosened, remove, without, Entries.erase]

/-- The bindings that involve a shape are told from the others by their identities. -/
theorem Filed.filter_involving (h : document.Filed) (id : String) :
    (document.bindings.filter fun entry =>
      entry.1 ∉ (Connector.involving id document.pageBindings).map Binding.id) =
        (document.loosened id).bindings := by
  refine List.filter_congr fun entry hentry => decide_eq_decide.mpr ?_
  have hid : entry.2.id = entry.1 := h.bindingId_of_mem hentry
  have hentry : entry.2 ∈ document.pageBindings := List.mem_map_of_mem hentry
  simp only [Connector.involving, List.mem_map, List.mem_filter, not_exists, not_and, and_imp]
  constructor
  · intro hnone
    have hnot := hnone entry.2 hentry
    simp only [hid, not_true_eq_false, imp_false] at hnot
    simpa using hnot
  · rintro hnot binding hbinding hinvolves hsame
    -- Bindings under one identity are one binding.
    have hfound := h.find_binding hbinding
    rw [hsame, ← hid, h.find_binding hentry] at hfound
    obtain rfl := Option.some.inj hfound
    simp [hnot] at hinvolves

/-- What lies within a shape is the shape and what lies within its children. -/
theorem Filed.within_iff (h : document.Filed) {root : String} :
    document.Within root id ↔ id = root ∨ ∃ child ∈ document.children root,
      document.Within child id := by
  constructor
  · intro hwithin
    induction hwithin with
    | self => exact .inl rfl
    | @child id parent shape hshape hparent _ ih =>
      rcases ih with rfl | ⟨child, hchild, hinner⟩
      · exact .inr ⟨id, h.mem_children.mpr ⟨shape, hshape, hparent⟩, .self⟩
      · exact .inr ⟨child, hchild, .child hshape hparent hinner⟩
  · rintro (rfl | ⟨child, hchild, hinner⟩)
    · exact .self
    · obtain ⟨shape, hshape, hparent⟩ := h.mem_children.mp hchild
      exact Within.trans (.child hshape hparent .self) hinner

theorem fewer_without (document : Document) (gone : List String) :
    Fewer document (document.without gone) :=
  ⟨by rw [plan_without]; exact List.filter_sublist, List.filter_sublist⟩

end Canvasflow.Page.Document

namespace Canvasflow.Session

open Canvasflow.Connector Canvasflow.Geometry Canvasflow.Page Canvasflow.Propagation

/-! ## Listeners -/

/-- Whether no observer answers what it is told. -/
def Listens (s : Session) : Prop :=
  ∀ {topic : Topic} {serial : Nat} {observer : Observer},
    (topic, .observer serial observer) ∈ s.subscribers → observer.reaction? = none

/-- A session with a whole page in which no observer answers. -/
structure Calm (s : Session) : Prop where
  whole : s.document.Whole
  listens : s.Listens

/-- A way of telling that leaves a calm session calm, with the plan and the bindings of its page.
Nothing is asked of it in other sessions: what is shown to anybody is a whole page. -/
def Discreet (notify : Notify) : Prop :=
  ∀ (notice : Notice) {s : Session}, s.Calm →
    (notify notice s).Calm ∧ s.document.SamePlan (notify notice s).document

/-- An act that succeeds and leaves a calm session, with a page of the given plan. -/
def Act.Turns (act : Act Unit) (s : Session) (document : Document) : Prop :=
  ∃ t : Session, act.run s = (.ok (), t) ∧ t.Calm ∧ document.SamePlan t.document

/-- An act that succeeds, leaves a calm session, and takes exactly some shapes off the page. -/
def Act.Clears (act : Act Unit) (s : Session) (inside : String → Prop) : Prop :=
  ∃ gone, (∀ id, id ∈ gone ↔ inside id) ∧ act.Turns s (s.document.without gone)

variable {notify : Notify} {s t : Session} {id : String}

theorem calm_reactive : Reactive Calm fun _ => True where
  offPage hs hmove := ⟨hs.whole.congr hmove.page, fun hmem => hs.listens (hmove.observers hmem)⟩
  marked hs hshape marker := ⟨hs.whole.mark hshape marker, hs.listens⟩
  updated hs _ hupdate := ⟨hs.whole.update hupdate, hs.listens⟩
  ran _ _ _ _ _ := trivial
  coloured _ _ _ := trivial

/-- Engines write to a calm session, but neither to the plan nor to the bindings of its page. -/
theorem calm_samePlan_reactive (document : Document) :
    Reactive (fun t => t.Calm ∧ document.SamePlan t.document) fun _ => True where
  offPage hs hmove :=
    ⟨calm_reactive.offPage hs.1 hmove, hs.2.trans (hmove.page.samePlan hmove.issued)⟩
  marked hs hshape marker :=
    ⟨calm_reactive.marked hs.1 hshape marker, hs.2.trans (.mark _ _ marker)⟩
  updated hs hfits hupdate :=
    ⟨calm_reactive.updated hs.1 hfits hupdate, hs.2.trans (.update hupdate)⟩
  ran _ _ _ _ _ := trivial
  coloured _ _ _ := trivial

/-- To any depth, notices that no observer answers leave the plan of a page as it is. -/
theorem notifyWithin_discreet (span depth : Nat) : Discreet (notifyWithin span depth) := by
  induction depth with
  | zero =>
    intro notice s hs
    exact (calm_samePlan_reactive s.document).recordNotice_keeps notice ⟨hs, .refl _⟩
  | succ depth ih =>
    intro notice s hs
    have hreactive := calm_samePlan_reactive s.document
    have hrecorded := hreactive.recordNotice_keeps notice ⟨hs, .refl _⟩
    refine hreactive.handOut_keeps (fun notice t ht => ?_) span notice (fun hmem hcommand => ?_)
      ⟨hs, .refl _⟩
    · obtain ⟨hcalm, hplan⟩ := ih notice ht.1
      exact ⟨hcalm, ht.2.trans hplan⟩
    · rw [hrecorded.1.listens hmem] at hcommand
      cases hcommand

section Acts

variable (hnotify : Discreet notify)
include hnotify

theorem Calm.told (hs : s.Calm) (notice : Notice) {document : Document} (hwhole : document.Whole) :
    (notify notice (s.withDocument document)).Calm ∧
      document.SamePlan (notify notice (s.withDocument document)).document :=
  hnotify notice ⟨hwhole, hs.listens⟩

/-! ## Single changes -/

theorem createShape_calm (new : NewShape) : (createShape notify new).Keeps Calm s := by
  intro hs
  have hwhole := hs.whole.created new
  rw [run_createShape]
  generalize s.document.create new = made at hwhole ⊢
  obtain ⟨fault | shape, document⟩ := made
  · exact ⟨hwhole, hs.listens⟩
  · exact (hs.told hnotify (.created shape) hwhole).1

theorem createBinding_calm (connector target : String) (terminal : Terminal) (id : String) :
    (createBinding notify connector target terminal id).Keeps Calm s := by
  intro hs
  have hwhole := hs.whole.bound connector target terminal id
  rw [run_createBinding]
  generalize s.document.bind connector target terminal id = made at hwhole ⊢
  obtain ⟨fault | binding, document⟩ := made
  · exact ⟨hwhole, hs.listens⟩
  · exact (hs.told hnotify (.bound binding) hwhole).1

theorem deleteBinding_turns (hs : s.Calm) {binding : Binding} {document : Document}
    (hunbind : s.document.unbind id = .ok (binding, document)) :
    (deleteBinding notify id).Turns s document := by
  obtain ⟨hcalm, hplan⟩ := hs.told hnotify (.unbound binding) (hs.whole.unbind hunbind)
  refine ⟨_, ?_, hcalm, hplan⟩
  rw [run_deleteBinding, hunbind]

theorem deleteBinding_calm (id : String) : (deleteBinding notify id).Keeps Calm s := by
  intro hs
  cases hunbind : s.document.unbind id with
  | error fault =>
    rw [run_deleteBinding, hunbind]
    exact hs
  | ok undone =>
    obtain ⟨t, hrun, hcalm, _⟩ := deleteBinding_turns hnotify hs hunbind
    rw [hrun]
    exact hcalm

/-! ## Changes that consist of others -/

theorem connect_calm (connector source target : String) :
    (connect notify connector source target).Keeps Calm s :=
  .bind (createBinding_calm hnotify _ _ _ _) fun _ _ =>
    .bind (createBinding_calm hnotify _ _ _ _) fun _ _ => .pure _

/-- A connector that cannot be bound at one end stays, with what was bound before. -/
theorem createConnector_calm (source target text id : String) :
    (createConnector notify source target text id).Keeps Calm s := by
  refine .get fun hs => ?_
  dsimp only
  split
  · exact hs
  · exact Act.Keeps.bind (createShape_calm hnotify _) (fun _ _ =>
      .bind (connect_calm hnotify _ _ _) fun _ _ => .pure _) hs

theorem applyScene_calm (scene : Scene) : (applyScene notify scene).Keeps Calm s := by
  refine .adapt (.bind (.forM fun _ _ _ => ?_) fun _ _ => .forM fun _ _ _ => ?_)
  · exact .bind (createShape_calm hnotify _) fun _ _ => .pure _
  · exact .bind (createBinding_calm hnotify _ _ _ _) fun _ _ => .pure _

/-! ## Removal -/

/-- Bindings are undone one after another. -/
theorem forM_deleteBinding_turns {bindings : List Binding} (hs : s.Calm)
    (hdistinct : (bindings.map Binding.id).Nodup)
    (hpresent : ∀ binding ∈ bindings,
      Entries.find? binding.id s.document.bindings = some binding) :
    (bindings.forM fun binding => deleteBinding notify binding.id).Turns s
      { s.document with
        bindings := s.document.bindings.filter fun entry =>
          entry.1 ∉ bindings.map Binding.id } := by
  induction bindings generalizing s with
  | nil => exact ⟨s, rfl, hs, rfl, by simp, rfl, rfl⟩
  | cons binding rest ih =>
    obtain ⟨hfresh, hdistinct⟩ := List.nodup_cons.mp hdistinct
    have hunbind : s.document.unbind binding.id = .ok (binding, { s.document with
        bindings := Entries.erase binding.id s.document.bindings }) := by
      rw [Document.unbind, hpresent binding List.mem_cons_self]
    obtain ⟨t, hrun, ht, hplan⟩ := deleteBinding_turns hnotify hs hunbind
    have hlater : ∀ other ∈ rest, Entries.find? other.id t.document.bindings = some other := by
      intro other hother
      have hne : other.id ≠ binding.id :=
        fun heq => hfresh (heq ▸ List.mem_map_of_mem hother)
      rw [hplan.bindings, Entries.find?_erase_of_ne hne]
      exact hpresent other (List.mem_cons_of_mem _ hother)
    obtain ⟨u, hrest, hu, hleft⟩ := ih ht hdistinct hlater
    refine ⟨u, ?_, hu, hleft.plan.trans hplan.plan, ?_, hleft.style.trans hplan.style,
      hleft.issued.trans hplan.issued⟩
    · rw [Act.run_forM_cons, hrun]
      exact hrest
    · rw [hleft.bindings, hplan.bindings, Entries.erase, List.filter_filter]
      refine List.filter_congr fun entry _ => ?_
      simp only [List.map_cons, List.mem_cons, not_or, Bool.decide_and, Bool.and_comm]

theorem loosen_turns (hs : s.Calm) (id : String) :
    (loosen notify id).Turns s (s.document.loosened id) := by
  have hsound := hs.whole.toSound
  have hdistinct : ((involving id s.document.pageBindings).map Binding.id).Nodup :=
    hsound.filed.nodup_bindingIds.sublist (List.filter_sublist.map _)
  have hundone := forM_deleteBinding_turns hnotify hs hdistinct
    fun binding hbinding => hsound.filed.find_binding (List.mem_of_mem_filter hbinding)
  rw [hsound.filed.filter_involving id] at hundone
  exact hundone

omit hnotify in
/-- Shapes that lie apart from one another are removed one after another. -/
theorem forM_clears {act : String → Act Unit} {children : List String} (hs : s.Calm)
    (hpresent : ∀ child ∈ children, (s.document.shape? child).isSome)
    (hapart : children.Pairwise fun first second => ¬ s.document.Within first second)
    (hact : ∀ child ∈ children, ∀ t : Session, t.Calm → s.document.Fewer t.document →
      (t.document.shape? child).isSome → (act child).Clears t (t.document.Within child)) :
    (children.forM act).Clears s fun id => ∃ child ∈ children, s.document.Within child id := by
  induction children generalizing s with
  | nil => exact ⟨[], by simp, s, rfl, hs, by rw [Document.without_nil]⟩
  | cons child rest ih =>
    obtain ⟨hfirst, hapart⟩ := List.pairwise_cons.mp hapart
    obtain ⟨gone, hgone, t, hrun, ht, hplan⟩ :=
      hact child List.mem_cons_self s hs (.refl _) (hpresent child List.mem_cons_self)
    have hclosed : s.document.Closed gone := Document.closed_of_within hgone
    have hfewer : s.document.Fewer t.document :=
      (Document.fewer_without _ gone).trans (.of_eq hplan.plan hplan.bindings)
    -- The other children are still there, and lie apart still.
    have hlater : ∀ other ∈ rest, other ∉ gone := fun other hother hmem =>
      hfirst other hother ((hgone other).mp hmem)
    obtain ⟨others, hothers, u, hrest, hu, hleft⟩ := ih ht
      (fun other hother => by
        rw [hplan.isSome, Document.shape_without_of_notMem _ (hlater other hother)]
        exact hpresent other (List.mem_cons_of_mem _ hother))
      (hapart.imp fun hnot hinner =>
        hnot (Document.within_of_without (hplan.within_iff.mp hinner)))
      fun other hother v hv hmore => hact other (List.mem_cons_of_mem _ hother) v hv
        (hfewer.trans hmore)
    refine ⟨gone ++ others, fun id => ?_, u,
      (Act.run_forM_cons_of_ok hrun rest).trans hrest, hu, ?_⟩
    · simp only [List.mem_append, hothers, List.exists_mem_cons_iff, ← hgone, hplan.within_iff]
      exact Document.exists_within_without hclosed rest
    · rw [← Document.without_without]
      exact (hplan.without others).trans hleft

/-- The removal of a shape of the page succeeds, to a depth that exceeds the number of shapes from
it onwards, and takes off exactly what lies within it. -/
theorem deleteShape_clears {depth : Nat} (hs : s.Calm) (hpresent : (s.document.shape? id).isSome)
    (hdepth : s.document.shapes.length - s.document.place id < depth) :
    (deleteShape notify depth id).Clears s (s.document.Within id) := by
  induction depth generalizing s id with
  | zero => omega
  | succ depth ih =>
    have hsound := hs.whole.toSound
    obtain ⟨shape, hshape⟩ := Option.isSome_iff_exists.mp hpresent
    -- What is inside goes first. Nothing is put on the page meanwhile, so the depth stays enough.
    obtain ⟨gone, hgone, t, hrun, ht, hplan⟩ := forM_clears hs
      (fun child hchild => by
        obtain ⟨inner, hinner, _⟩ := hsound.filed.mem_children.mp hchild
        rw [hinner]
        rfl)
      ((hsound.treelike id).children_apart hsound.filed)
      fun child hchild u hu hfewer hleft => by
        obtain ⟨hlt, hlength⟩ := hsound.place_lt_of_mem_children hchild
        have hle := hfewer.above_le child
        exact ih hu hleft (by omega)
    obtain ⟨u, hloosen, hu, hloose⟩ := loosen_turns hnotify ht id
    -- What it held has gone, and no binding involves it any more.
    have hchildren : u.document.children id = [] := by
      refine List.eq_nil_iff_forall_not_mem.mpr fun child hchild => ?_
      have hholds := hplan.holds_iff.mp (hloose.holds_iff.mp (hu.whole.filed.mem_children.mp hchild))
      obtain ⟨hstays, hheld⟩ := Document.holds_of_without hholds
      exact hstays ((hgone child).mpr ⟨child, hsound.filed.mem_children.mpr hheld, .self⟩)
    have hfree : ∀ binding ∈ u.document.pageBindings,
        binding.connector ≠ id ∧ binding.target ≠ id := by
      intro binding hbinding
      rw [Document.pageBindings, hloose.bindings] at hbinding
      obtain ⟨entry, hentry, rfl⟩ := List.mem_map.mp hbinding
      simpa using (List.mem_filter.mp hentry).2
    -- The shape itself does not lie within its children.
    have hstays : (u.document.shape? id).isSome := by
      have hid : id ∉ gone := by
        rw [hgone]
        rintro ⟨child, hchild, hwithin⟩
        exact (hsound.treelike id).not_within (hsound.filed.mem_children.mp hchild) hwithin
      have hkept := hplan.isSome id
      rw [Document.shape_without_of_notMem _ hid, hpresent] at hkept
      exact (hloose.isSome id).trans hkept
    obtain ⟨hcalm, hended⟩ := hu.told hnotify (.deleted shape) (hu.whole.remove hchildren hfree)
    have hremoved : (s.document.without (gone ++ [id])).SamePlan (u.document.remove id) := by
      have hunbound := hplan.without [id]
      rw [Document.without_without, ← Document.remove_loosened] at hunbound
      exact hunbound.trans (hloose.remove id)
    refine ⟨gone ++ [id], fun other => ?_, _, ?_, hcalm, hremoved.trans hended⟩
    · rw [hsound.filed.within_iff, List.mem_append, List.mem_singleton, hgone, or_comm]
    · simp only [deleteShape, Act.run_bind, Act.run_get, hshape, hrun, hloosen, takeOff, store]
      rw [if_neg (by simpa [Option.isSome_iff_ne_none] using hstays)]
      rfl

omit hnotify in
/-- A shape that is not on the page is looked for and nothing is removed. -/
theorem run_deleteShape_missing {depth : Nat} (hdepth : 0 < depth)
    (hshape : s.document.shape? id = none) :
    (deleteShape notify depth id).run s = (.error (.page (.shapeNotFound id)), s) := by
  cases depth with
  | zero => omega
  | succ depth =>
    simp only [deleteShape, Act.run_bind, Act.run_get, hshape]
    rfl

theorem deleteShape_calm {depth : Nat} (id : String) (hdepth : s.document.shapes.length < depth) :
    (deleteShape notify depth id).Keeps Calm s := by
  intro hs
  cases hshape : s.document.shape? id with
  | none =>
    rw [run_deleteShape_missing (by omega) hshape]
    exact hs
  | some shape =>
    obtain ⟨_, _, t, hrun, hcalm, _⟩ := deleteShape_clears hnotify hs (by rw [hshape]; rfl)
      (Nat.lt_of_le_of_lt (Nat.sub_le _ (s.document.place id)) hdepth)
    rw [hrun]
    exact hcalm

end Acts

/-! ## Commands -/

/-- Whether a command edits the page, or has an observer that does not answer look on. -/
def Command.edits : Command → Bool
  | .create _ | .connector .. | .update _ | .delete _ | .bind .. | .connect .. | .unbind _
  | .mark .. => true
  | .subscribe _ _ _ reaction? => reaction?.isNone
  | _ => false

/-- Whether a command brings no observer that answers. -/
def Command.unanswered : Command → Bool
  | .subscribe _ _ _ reaction? => reaction?.isNone
  | _ => true

theorem Command.unanswered_of_edits {command : Command} (h : command.edits) :
    command.unanswered := by
  cases command with
  | subscribe topic name fails reaction? => exact h
  | _ => rfl

/-- A command leaves a calm session, wherever it fails, if it brings nobody who answers. -/
theorem carryOut_calm (hnotify : Discreet notify) {depth : Nat} {command : Command}
    (hcommand : command.unanswered) (hdepth : s.document.shapes.length < depth) :
    (carryOut notify depth command).Keeps Calm s := by
  have htold : ∀ notice s, s.Calm → (notify notice s).Calm :=
    fun notice _ hs => (hnotify notice hs).1
  cases command with
  | create new => exact .bind (createShape_calm hnotify new) fun _ _ => .pure _
  | connector source target text id =>
    exact .bind (createConnector_calm hnotify _ _ _ _) fun _ _ => .pure _
  | update patch =>
    exact .bind (calm_reactive.updateShape_keeps htold trivial) fun _ _ => .pure _
  | delete id => exact .bind (deleteShape_calm hnotify id hdepth) fun _ _ => .pure _
  | bind connector target terminal id =>
    exact .bind (createBinding_calm hnotify _ _ _ _) fun _ _ => .pure _
  | connect connector source target =>
    exact .bind (connect_calm hnotify _ _ _) fun _ _ => .pure _
  | unbind id => exact .bind (deleteBinding_calm hnotify id) fun _ _ => .pure _
  | mark id marker =>
    exact .bind (calm_reactive.setMarker_keeps htold id marker) fun _ _ => .pure _
  | load scene =>
    cases scene with
    | error fault => exact .throw _
    | ok scene => exact .bind (applyScene_calm hnotify scene) fun _ _ => .pure _
  | subscribe topic name fails reaction? =>
    refine fun hs => ⟨hs.whole, fun hmem => ?_⟩
    rcases List.mem_append.mp hmem with hold | hnew
    · exact hs.listens hold
    · obtain ⟨_, hlast⟩ := Prod.mk.inj (List.mem_singleton.mp hnew)
      cases hlast
      exact Option.isNone_iff_eq_none.mp hcommand
  | _ => exact calm_reactive.carryOut_keeps htold depth rfl

/-- A command is followed deeper than there are shapes on the page. -/
theorem length_shapes_lt_room (s : Session) (command : Command) :
    s.document.shapes.length < s.room command := by
  unfold room
  dsimp only
  generalize weight _ command + pending _ s = added
  exact Nat.lt_of_lt_of_le (by omega) (Nat.le_mul_of_pos_left _ (by omega))

theorem unanswered_calm (hs : s.Calm) {commands : List Command}
    (hcommands : ∀ command ∈ commands, command.unanswered) : (s.after commands).Calm :=
  foldl_keeps (fun command hmem t ht => carryOut_calm (notifyWithin_discreet _ _)
    (hcommands command hmem) (length_shapes_lt_room t command) ht) hs

theorem after_calm (hs : s.Calm) {commands : List Command}
    (hcommands : ∀ command ∈ commands, command.edits) : (s.after commands).Calm :=
  unanswered_calm hs fun command hmem => Command.unanswered_of_edits (hcommands command hmem)

theorem new_calm (settings : Settings) (style : Style) : (new settings (.empty style)).Calm :=
  ⟨.empty style, nofun⟩

theorem blank_calm (settings : Settings) : (blank settings).Calm :=
  new_calm settings _

/-- Whatever is done to an empty page by commands that edit it, each of which may succeed or fail,
and whoever looks on, the page is whole: it is sound, markers belong to shapes, and coordinates are
finite. What holds a shape is on the page and comes before it, so no shape holds itself, the walk
from a shape outwards ends with its place on the page, and the removal of any shape, with everything
inside it, ends and succeeds. -/
theorem edits_keep_whole (settings : Settings) {commands : List Command}
    (hcommands : ∀ command ∈ commands, command.edits) :
    let s := (blank settings).after commands
    s.document.Whole ∧
      (∀ parent id, s.document.Holds parent id →
        (s.document.shape? parent).isSome ∧ s.document.place parent < s.document.place id) ∧
      (∀ id, ¬ Relation.TransGen s.document.Holds id id) ∧
      (∀ id, ∃ placement?, s.document.placement? id = .ok placement? ∧
        placement?.isSome = (s.document.shape? id).isSome) ∧
      ∀ id, (s.document.shape? id).isSome → (s.perform (.delete id)).1 = .ok .done := by
  intro s
  have hs : s.Calm := after_calm (blank_calm settings) hcommands
  have hsound := hs.whole.toSound
  refine ⟨hs.whole, ?_, hsound.acyclic, hsound.placement_isSome, fun id hid => ?_⟩
  · rintro parent id ⟨shape, hshape, hparent⟩
    exact ⟨hsound.parent_isSome hshape hparent, hsound.place_lt hshape hparent⟩
  · have hroom := length_shapes_lt_room s (.delete id)
    obtain ⟨_, _, t, hrun, _⟩ := deleteShape_clears
      (notifyWithin_discreet (s.room (.delete id)) (s.room (.delete id))) hs hid
      (Nat.lt_of_le_of_lt (Nat.sub_le _ (s.document.place id)) hroom)
    simp only [perform, carryOut, Act.run_bind, hrun]
    rfl

/-- A script that is watched by an observer that fails. A connector is made and bound at its start
before it turns out that its other end is nowhere; it is bound inside a group, and the group is
deleted. -/
def halfway : List Command :=
  [.subscribe .unbound "watcher" true none,
    .create { type := "frame", id := "f" },
    .create { type := "geo", id := "a", parent := .str "f", x := .int 3 },
    .connector "a" "nowhere" "() \x7b return to; \x7d" "c",
    .mark "c" .error,
    .create { type := "geo", id := "b", parent := .str "a" },
    .bind "c" "b" .finish "e",
    .delete "a"]

theorem halfway_keeps_whole :
    let s := (blank .defaults).after halfway
    (∀ command ∈ halfway, command.edits) ∧ s.document.Whole ∧
      ((s.document.shape? "f").isSome ∧ (s.perform (.delete "f")).1 = .ok .done) ∧
      Entries.keys s.document.shapes = ["f", "c"] ∧ s.document.bindings = [] ∧
      Entries.keys s.document.markers = ["c"] := by
  intro s
  have hcommands : ∀ command ∈ halfway, command.edits := by
    simp [halfway, Command.edits]
  obtain ⟨hwhole, _, _, _, hdelete⟩ := edits_keep_whole .defaults hcommands
  have hgroup : (s.document.shape? "f").isSome := by decide +kernel
  exact ⟨hcommands, hwhole, ⟨hgroup, hdelete "f" hgroup⟩, by decide +kernel, by decide +kernel,
    by decide +kernel⟩

end Canvasflow.Session
