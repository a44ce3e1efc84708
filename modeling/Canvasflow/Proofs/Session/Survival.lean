import Canvasflow.Proofs.Session.Termination

/-!
# What survives commands

How a property is shown to hold whatever a host does to a page on which an engine was started. A
property is `Closed` when the engine keeps it while it runs connectors and reacts to the changes
that they make; then it can be followed through any notice (`Closed.survives`). `Surviving` lists
the changes that a command of a host stores and what is to be shown of each, and `perform_survives`
concludes that the property survives the command, `after_survives` that it survives any number of
them.
-/

namespace Canvasflow.Session

open Canvasflow.Geometry Canvasflow.Page Canvasflow.Propagation

variable {number : Nat} {P Q Good : Session → Prop} {Due : Shape → Session → Prop} {s t u : Session}

/-! ## Steps since a time -/

/-- Whether one of the steps that were put on a trail since it was as given is of a kind. -/
def Since (base : List Step) (kind : Step → Prop) (s : Session) : Prop :=
  ∃ steps, s.trail = steps ++ base ∧ ∃ step ∈ steps, kind step

section Since

variable {base : List Step} {kind : Step → Prop}

/-- Steps stay on the trail. -/
theorem Since.mono (h : Since base kind s) (htrail : ∃ steps, t.trail = steps ++ s.trail) :
    Since base kind t := by
  obtain ⟨steps, hsteps, step, hstep, hkind⟩ := h
  obtain ⟨more, hmore⟩ := htrail
  exact ⟨more ++ steps, by rw [hmore, hsteps, List.append_assoc], step,
    List.mem_append_right more hstep, hkind⟩

/-- A step that is noted after the trail was as given. -/
theorem Since.noted {step : Step} (h : ∃ steps, s.trail = steps ++ base) (hkind : kind step) :
    Since base kind (s.note step) := by
  obtain ⟨steps, hsteps⟩ := h
  exact ⟨step :: steps, by rw [note, hsteps, List.cons_append], step, List.mem_cons_self, hkind⟩

/-- No step on the trail is of the kind. -/
theorem not_since_of_forall (h : ∀ step ∈ s.trail, ¬ kind step) : ¬ Since base kind s := by
  rintro ⟨steps, hsteps, step, hstep, hkind⟩
  exact h step (hsteps ▸ List.mem_append_left base hstep) hkind

/-- Nothing has been noted yet. -/
theorem not_since (s : Session) (kind : Step → Prop) : ¬ Since s.trail kind s := by
  rintro ⟨steps, hsteps, step, hstep, _⟩
  rw [List.self_eq_append_left.mp hsteps] at hstep
  cases hstep

end Since

/-! ## Cascades -/

/-- A property that an engine keeps while it runs connectors and reacts to what they change, and
what is due between a change of a shape and its notice. -/
structure Closed (number : Nat) (Good : Session → Prop) (Due : Shape → Session → Prop) : Prop where
  upkeep : Upkeep number Good Due
  changed : ∀ {first second : Notify} {bound : Nat}, Agree number Good Due first second bound →
    ∀ (span width : Nat) (shape : Shape), Twin number bound (Due shape) Good
      (handOut first span (.changed shape)) (handOut second width (.changed shape))

/-- A notice that leads to a property to whatever depth it is handed out, if the depth exceeds the
rank. -/
def Survives (number : Nat) (P : Session → Prop) (notice : Notice) (s : Session) : Prop :=
  ∀ span depth, s.rank number ≤ depth → P (notifyWithin span (depth + 1) notice s)

theorem Closed.agree (h : Closed number Good Due) (span : Nat) {depth bound : Nat}
    (hbound : bound ≤ depth) :
    Agree number Good Due (notifyWithin span depth) (notifyWithin span depth) bound :=
  agree_notifyWithin span span (fun hagree shape => h.changed hagree span span shape) hbound hbound

/-- What a notice leads to where those who are told of further changes keep a property. -/
theorem Closed.survives (h : Closed number Good Due) {notice : Notice}
    (hhand : ∀ {notify : Notify} {bound : Nat}, Agree number Good Due notify notify bound →
      ∀ span, Twin number bound P Q (handOut notify span notice) (handOut notify span notice))
    (hfit : Fit number s) (hP : P s) : Survives number Q notice s :=
  fun span _ hdepth =>
    (hhand (h.agree span hdepth) span s hfit hP (Nat.le_refl _)).2.good

/-- What holds of every session that is kept survives any notice. -/
theorem survives_of_kept (h : ∀ {t : Session}, Kept number s t → P t) (hfit : Fit number s)
    (notice : Notice) : Survives number P notice s :=
  fun span depth _ => h (notifyWithin_kept span (depth + 1) notice hfit)

/-! ## Telling an engine that is told of everything -/

section Attention

variable {first second : Notify} {bound span width : Nat} {shape : Shape} {R : Session → Prop}

/-- The engine is told, and no one else. -/
theorem handOut_attended (h : Attended number s) (notify : Notify) (notice : Notice) :
    handOut notify span notice s =
      tell notify span notice (s.recordNotice notice) (.engine number) := by
  have hkept : Kept number s (s.recordNotice notice) := .record s notice
  simp only [handOut, h.steady hkept.toSteady notice.topic, List.foldl_cons, List.foldl_nil]

/-- A change of a shape is passed on to the propagators when the index could be brought up to date.
-/
theorem handOut_changed (h : Attended number s) (notify : Notify) :
    handOut notify span (.changed shape) s =
      match (indexShape number shape.id).run (s.recordNotice (.changed shape)) with
      | (.ok _, t) => spread notify number shape t
      | (.error _, t) => t.note (.failed number .changed (some shape.id)) := by
  rw [handOut_attended h]
  simp only [tell, engineReacts, engineChanged, Act.run_bind]
  rcases (indexShape number shape.id).run
    (s.recordNotice (.changed shape)) with ⟨fault | _, t⟩ <;> rfl

/-- Indexing a shape whose change was recorded keeps the session. -/
theorem recorded_reindexed (hfit : Fit number s) {outcome : Except Fault Unit}
    (hrun : (indexShape number shape.id).run (s.recordNotice (.changed shape)) = (outcome, t)) :
    Reindexed number (s.recordNotice (.changed shape)) t ∧ Kept number s t := by
  have hrecord : Kept number s (s.recordNotice (.changed shape)) := .record s _
  have hfit' := hrecord.fit hfit
  have hreindexed := indexShape_reindexed hfit'.sound number shape.id
  rw [hrun] at hreindexed
  exact ⟨hreindexed, hrecord.trans (hreindexed.kept hfit'.present)⟩

/-- What follows a change of a shape, where something is due until the index is brought up to date.
-/
theorem changed_twin (hattended : ∀ s, P s → Attended number s)
    (hindexed : ∀ {s t : Session}, Fit number s → P s →
      (indexShape number shape.id).run (s.recordNotice (.changed shape)) = (.ok (), t) → Q t)
    (hmissed : ∀ {s t : Session} {fault : Fault}, Fit number s → P s →
      (indexShape number shape.id).run (s.recordNotice (.changed shape)) = (.error fault, t) →
        R (t.note (.failed number .changed (some shape.id))))
    (hspread : Twin number bound Q R (spread first number shape) (spread second number shape)) :
    Twin number bound P R (handOut first span (.changed shape))
      (handOut second width (.changed shape)) := by
  intro s hfit hP hbound
  rw [handOut_changed (hattended s hP), handOut_changed (hattended s hP)]
  rcases hrun : (indexShape number shape.id).run
    (s.recordNotice (.changed shape)) with ⟨fault | _, t⟩ <;>
    obtain ⟨hreindexed, hkept⟩ := recorded_reindexed hfit hrun <;>
    have hrank := hkept.rank_of_shapes (by rw [hreindexed.document_eq]; rfl)
  · exact ⟨rfl, hkept.trans (.note t fun _ => nofun), hmissed hfit hP hrun, Nat.le_of_eq hrank⟩
  · obtain ⟨hsame, hreached⟩ := hspread t (hkept.fit hfit) (hindexed hfit hP hrun) (hrank ▸ hbound)
    exact ⟨hsame, hkept.trans hreached.kept, hreached.good, hrank ▸ hreached.low⟩

end Attention

/-- A session in which an engine is told of everything, reached since a time. -/
structure Watched (number : Nat) (base : List Step) (s : Session) : Prop where
  attended : Attended number s
  since : ∃ steps, s.trail = steps ++ base

theorem Watched.mono {base : List Step} (h : Watched number base s)
    (hsubscribers : t.subscribers = s.subscribers) (htrail : ∃ steps, t.trail = steps ++ s.trail) :
    Watched number base t := by
  obtain ⟨steps, hsteps⟩ := h.since
  obtain ⟨more, hmore⟩ := htrail
  refine ⟨fun topic => ?_, more ++ steps, by rw [hmore, hsteps, List.append_assoc]⟩
  rw [← h.attended topic, subscribersOf, subscribersOf, hsubscribers]

theorem Steady.trail_append (h : Steady number s t) : ∃ steps, t.trail = steps ++ s.trail :=
  h.trail.imp fun _ htrail => htrail.1

theorem Watched.steady {base : List Step} (h : Watched number base s)
    (hsteady : Steady number s t) :
    Watched number base t :=
  h.mono hsteady.subscribers hsteady.trail_append

/-! ## Commands of a host -/

/-- What is to be shown of the changes that a command of a host stores. Bindings are made and
things are taken off the page only by some commands. -/
structure Surviving (number : Nat) (P : Session → Prop) (command : Command) : Prop where
  counted : ∀ {s : Session} (issued : Nat), Fit number s → P s →
    P (s.withDocument { s.document with issued := issued })
  created : ∀ {s : Session} {new : NewShape} {shape : Shape} {document : Document},
    Fit number s → P s → s.document.create new = (.ok shape, document) →
      Survives number P (.created shape) (s.withDocument document)
  bound : command.binds = true →
    ∀ {s : Session} {connector target id : String} {terminal : Terminal}
    {binding : Binding} {document : Document}, Fit number s → P s →
      s.document.bind connector target terminal id = (.ok binding, document) →
        Survives number P (.bound binding) (s.withDocument document)
  unbound : command.removes = true → ∀ {s : Session} {id : String} {binding : Binding}
    {document : Document}, Fit number s → P s → s.document.unbind id = .ok (binding, document) →
      Survives number P (.unbound binding) (s.withDocument document)
  removed : command.removes = true → ∀ {s : Session} {id : String} {shape now : Shape},
    Fit number s → P s → s.document.shape? id = some now → now.station = shape.station →
      s.document.children id = [] →
        (∀ binding ∈ s.document.pageBindings, binding.connector ≠ id ∧ binding.target ≠ id) →
          Survives number P (.deleted shape) (s.withDocument (s.document.remove id))
  updated : ∀ {s : Session} {patch : Patch} {shape : Shape} {document : Document},
    Fit number s → P s → s.document.update patch = .ok (shape, document) →
      Survives number P (.changed shape) (s.withDocument document)
  marked : ∀ {s : Session} (id : String) (marker : Marker), Fit number s → P s →
    P (s.withDocument (s.document.mark id marker))
  looked : ∀ {s : Session} (viewport? : Option (Box Float)), Fit number s → P s →
    P (s.withDocument { s.document with viewport? := viewport? })
  pointed : ∀ {s : Session} (event : InputEvent) (pointer : Point Float), Fit number s → P s →
    Survives number P (.input event) (s.withDocument { s.document with pointer := pointer })
  passed : ∀ {s : Session} (now : Float), Fit number s → P s →
    Survives number P .frame { s with clock := now }

/-- A session that is kept was of no greater size. -/
theorem Sized.of_kept {limit size : Nat} (h : Sized number limit size t) (hkept : Kept number s t) :
    Sized number limit size s :=
  ⟨by rw [← hkept.guard]; exact h.limited, by rw [← hkept.length_shapes]; exact h.counted⟩

/-- What survives a notice holds after it was told. -/
theorem Told.and_survives {limit size span depth : Nat} {notice : Notice}
    (h : Told number (Sized number limit size) (notifyWithin span depth)
      (notifyWithin span depth) notice s)
    (hdepth : (limit + 1) * (size + 1) ≤ depth) (hsurvives : Survives number P notice s) :
    Told number (fun t => Sized number limit size t ∧ P t) (notifyWithin span depth)
      (notifyWithin span depth) notice s := by
  have hrank := (h.good.of_kept h.kept).rank_lt
  obtain ⟨rest, rfl⟩ : ∃ rest, depth = rest + 1 := ⟨depth - 1, by omega⟩
  exact ⟨h.same, h.kept, h.good, hsurvives span rest (by omega)⟩

/-- A property survives a command of a host when it survives the changes that the command stores. -/
theorem perform_survives (hfit : Fit number s) (hP : P s) {command : Command}
    (hhost : command.isHost = true) (h : Surviving number P command) : P (s.perform command).2 := by
  -- A command adds one shape at most, and the size of the page bounds the depth of what follows.
  have hroom := rank_lt_room hfit hhost
  generalize hlimit : (s.engineAt number).guard.limit.toNat = limit at hroom
  generalize hsize : s.document.shapes.length = size at hroom
  have hsized : Sized number limit size s := ⟨Nat.le_of_eq hlimit, Nat.le_of_eq hsize⟩
  have hcount {t : Session} (ht : Sized number limit (size + 1) t ∧ P t) :
      t.document.shapes.length < s.room command := by
    have hcounted := ht.1.counted
    have hproduct : size + 2 ≤ (limit + 1) * (size + 2) := Nat.le_mul_of_pos_left _ (by omega)
    omega
  have hbase : Hosting number (notifyWithin (s.room command) (s.room command))
      (notifyWithin (s.room command) (s.room command)) (Sized number limit size)
      (Sized number limit (size + 1)) command := hosting_sized command hroom hroom
  have hboth : Hosting number (notifyWithin (s.room command) (s.room command))
      (notifyWithin (s.room command) (s.room command))
      (fun t => Sized number limit size t ∧ P t) (fun t => Sized number limit (size + 1) t ∧ P t)
      command := by
    constructor
    case creates =>
      refine ⟨fun hfit ht => ⟨hbase.creates.stays hfit ht.1, ht.2⟩, fun issued hfit ht =>
        ⟨hbase.creates.counted issued hfit ht.1, h.counted issued hfit ht.2⟩, ?_⟩
      intro t new shape document hfit ht hcreate
      exact (hbase.creates.created hfit ht.1 hcreate).and_survives hroom
        (h.created hfit ht.2 hcreate)
    case binds =>
      intro hbinds
      refine ⟨fun issued hfit ht =>
        ⟨(hbase.binds hbinds).counted issued hfit ht.1, h.counted issued hfit ht.2⟩, ?_⟩
      intro t connector target id terminal binding document hfit ht hbind
      exact ((hbase.binds hbinds).bound hfit ht.1 hbind).and_survives hroom
        (h.bound hbinds hfit ht.2 hbind)
    case removes =>
      intro hremoves
      constructor
      · intro t id binding document hfit ht hunbind
        exact ((hbase.removes hremoves).unbound hfit ht.1 hunbind).and_survives hroom
          (h.unbound hremoves hfit ht.2 hunbind)
      · intro t id shape now hfit ht hnow hstation hchildren hbindings
        have htold := (hbase.removes hremoves).removed hfit ht.1 hnow hstation hchildren hbindings
        exact htold.and_survives hroom
          (h.removed hremoves hfit ht.2 hnow hstation hchildren hbindings)
    case updates =>
      intro t patch shape document hfit ht hupdate
      exact (hbase.updates hfit ht.1 hupdate).and_survives hroom (h.updated hfit ht.2 hupdate)
    case marked =>
      exact fun id marker hfit ht =>
        ⟨hbase.marked id marker hfit ht.1, h.marked id marker hfit ht.2⟩
    case passes =>
      refine ⟨fun viewport? hfit ht =>
        ⟨hbase.passes.looked viewport? hfit ht.1, h.looked viewport? hfit ht.2⟩, ?_, ?_⟩
      · intro t event pointer hfit ht
        exact (hbase.passes.pointed event pointer hfit ht.1).and_survives hroom
          (h.pointed event pointer hfit ht.2)
      · intro t now hfit ht
        exact (hbase.passes.passed now hfit ht.1).and_survives hroom (h.passed now hfit ht.2)
  exact (carryOut_hosted hboth hcount hcount hhost s hfit ⟨hsized, hP⟩).2.good.2

/-- A property that survives every command of a host survives any number of them. -/
theorem after_survives (h : ∀ command : Command, command.isHost = true → Surviving number P command)
    (hfit : Fit number s) (hP : P s) {commands : List Command}
    (hhost : ∀ command ∈ commands, command.isHost = true) : P (s.after commands) := by
  induction commands generalizing s with
  | nil => exact hP
  | cons command rest ih =>
    have hcommand := hhost command List.mem_cons_self
    exact ih (perform_hosted hfit hcommand).2.1
      (perform_survives hfit hP hcommand (h command hcommand))
      fun other hother => hhost other (List.mem_cons_of_mem _ hother)

end Canvasflow.Session
