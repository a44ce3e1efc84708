import Canvasflow.Proofs.Connector.Cache
import Canvasflow.Proofs.Page.Plain
import Canvasflow.Proofs.Session.Start
import Mathlib.Logic.Relation

/-!
# The moves of a session

Everything that can happen to a session, step by step. A `Move` is a small change of one part of a
session: an edit of the page, a line on a record, an engine or a subscriber that is added, a guard
that changes, a cache that is used. A move is `Quiet` when it brings no new shape and no new
observer, so that nothing that a command carries gets into the session by it.
-/

namespace Canvasflow.Page.Document

/-- What a single change may make of a page. -/
inductive Edit (before : Document) : Document → Prop
  | created (new : NewShape) : Edit before (before.create new).2
  | updated {patch : Patch} {shape : Shape} {after : Document}
      (h : before.update patch = .ok (shape, after)) : Edit before after
  | bound (connector target : String) (terminal : Terminal) (id : String) :
      Edit before (before.bind connector target terminal id).2
  | unbound {id : String} {binding : Binding} {after : Document}
      (h : before.unbind id = .ok (binding, after)) : Edit before after
  | removed (id : String) : Edit before (before.remove id)
  | marked (id : String) (marker : Marker) : Edit before (before.mark id marker)
  | looked (viewport? : Option (Geometry.Box Float)) :
      Edit before { before with viewport? := viewport? }
  | pointed (pointer : Geometry.Point Float) : Edit before { before with pointer := pointer }

/-- A binding leaves the shapes as they are, whether it is accepted or not. -/
theorem bind_shapes (document : Document) (connector target : String) (terminal : Terminal)
    (id : String) : (document.bind connector target terminal id).2.shapes = document.shapes := by
  rcases hbind : document.bind connector target terminal id with ⟨fault | binding, next⟩
  · obtain ⟨_, rfl⟩ := bind_error hbind
    rfl
  · obtain ⟨_, _, _, _, _, _, _, rfl⟩ := bind_ok hbind
    rfl

/-- No change of a page changes its style. -/
theorem Edit.style {document next : Document} (h : document.Edit next) :
    next.style = document.style := by
  cases h with
  | created new =>
    rcases hcreate : document.create new with ⟨fault | shape, next⟩
    · obtain ⟨_, rfl⟩ := create_error hcreate
      rfl
    · obtain ⟨_, _, _, rfl⟩ := create_ok hcreate
      rfl
  | updated hupdate =>
    obtain ⟨_, _, _, rfl⟩ := update_ok hupdate
    rfl
  | bound connector target terminal id =>
    rcases hbind : document.bind connector target terminal id with ⟨fault | binding, next⟩
    · obtain ⟨_, rfl⟩ := bind_error hbind
      rfl
    · obtain ⟨_, _, _, _, _, _, _, rfl⟩ := bind_ok hbind
      rfl
  | unbound hunbind =>
    obtain ⟨_, rfl⟩ := unbind_ok hunbind
    rfl
  | removed | marked | looked | pointed => rfl

/-- Whether shapes and bindings are stored under their own identities, of which none is empty. -/
structure Named (document : Document) : Prop where
  shapes : ∀ entry ∈ document.shapes, entry.2.id = entry.1 ∧ entry.1 ≠ ""
  bindings : ∀ entry ∈ document.bindings, entry.2.id = entry.1 ∧ entry.1 ≠ ""

/-- An identity that is given out is not empty. -/
theorem identify_ne_empty (document : Document) (kind id : String) (hkind : kind ≠ "") :
    (document.identify kind id).1 ≠ "" := by
  unfold identify
  split
  · simp [hkind]
  · rename_i hid
    simpa using hid

variable {document next : Document}

theorem Named.empty (style : Style) : (Document.empty style).Named :=
  ⟨by simp [Document.empty], by simp [Document.empty]⟩

theorem Named.find_shape (h : document.Named) {id : String} {shape : Shape}
    (hshape : document.shape? id = some shape) : shape.id = id :=
  (h.shapes _ (Entries.mem_of_find? hshape)).1

/-- No change of a page stores anything under another identity than its own. -/
theorem Named.edit (h : document.Named) (hedit : document.Edit next) : next.Named := by
  cases hedit with
  | created new =>
    have hname := document.identify_ne_empty "shape" new.id (by decide)
    rcases hcreate : document.create new with ⟨fault | shape, next⟩
    · obtain ⟨_, rfl⟩ := create_error hcreate
      exact ⟨h.shapes, h.bindings⟩
    · have hid : shape.id = (document.identify "shape" new.id).1 := by
        simp only [create] at hcreate
        split at hcreate
        · rename_i haccept
          cases hcreate
          exact (accept_ok haccept).1
        · cases hcreate
      obtain ⟨_, _, _, rfl⟩ := create_ok hcreate
      refine ⟨fun entry hentry => ?_, h.bindings⟩
      rcases List.mem_append.mp hentry with hold | hnew
      · exact h.shapes entry hold
      · rw [List.mem_singleton.mp hnew]
        exact ⟨rfl, hid ▸ hname⟩
  | @updated patch shape _ hupdate =>
    obtain ⟨old, hold, hpatched, rfl⟩ := update_ok hupdate
    have hid : shape.id = patch.id :=
      (congrArg Station.id (patched_station hpatched)).trans (h.find_shape hold)
    refine ⟨fun entry hentry => ?_, h.bindings⟩
    rcases Entries.mem_of_mem_set hentry with hmem | hnew
    · exact h.shapes entry hmem
    · obtain rfl : entry = (patch.id, shape) := hnew
      exact ⟨hid, (h.shapes _ (Entries.mem_of_find? hold)).2⟩
  | bound connector target terminal id =>
    have hname := document.identify_ne_empty "binding" id (by decide)
    rcases hbind : document.bind connector target terminal id with ⟨fault | binding, next⟩
    · obtain ⟨_, rfl⟩ := bind_error hbind
      exact ⟨h.shapes, h.bindings⟩
    · have hid : binding.id = (document.identify "binding" id).1 := by
        simp only [bind] at hbind
        split at hbind
        · cases hbind
        · split at hbind
          · cases hbind
          · cases hbind
            rfl
      obtain ⟨_, _, _, _, _, _, _, rfl⟩ := bind_ok hbind
      refine ⟨h.shapes, fun entry hentry => ?_⟩
      rcases List.mem_append.mp hentry with hold | hnew
      · exact h.bindings entry hold
      · rw [List.mem_singleton.mp hnew]
        exact ⟨rfl, hid ▸ hname⟩
  | unbound hunbind =>
    obtain ⟨_, rfl⟩ := unbind_ok hunbind
    exact ⟨h.shapes, fun entry hentry => h.bindings entry (List.mem_of_mem_filter hentry)⟩
  | removed id =>
    exact ⟨fun entry hentry => h.shapes entry (List.mem_of_mem_filter hentry), h.bindings⟩
  | marked | looked | pointed => exact ⟨h.shapes, h.bindings⟩

end Canvasflow.Page.Document

namespace Canvasflow.Session

open Canvasflow.Connector Canvasflow.Geometry Canvasflow.Page Canvasflow.Propagation

/-- A change of the propagators with a trigger that leaves them theirs, and their caches in
order. -/
def Tending (s : Session) (number : Nat) (trigger : Trigger) (change : Propagator → Propagator) :
    Prop :=
  ∀ propagator ∈ (s.engineAt number).propagators, propagator.trigger = trigger →
    (change propagator).trigger = trigger ∧
    ∃ known ∈ (s.engineAt number).propagators, known.trigger = trigger ∧
      known.cache.Tended s.textOf? (change propagator).cache

/-- A small change of one part of a session. -/
inductive Move (s : Session) : Session → Prop
  | noted (step : Step) : Move s (s.note step)
  | recorded (entry : Entry) : Move s (s.record entry)
  | logged (lines : Array String) : Move s { s with log := s.log ++ lines }
  | timed (now : Float) : Move s { s with clock := now }
  | edited {document : Document} (h : s.document.Edit document) : Move s (s.withDocument document)
  | subscribed (observer : Observer) : Move s (subscribe observer s)
  | attended (number : Nat) : Move s { s with
      subscribers := s.subscribers ++ Topic.all.map fun topic => (topic, .engine number) }
  | silenced (keep : Topic × Subscriber → Bool) :
      Move s { s with subscribers := s.subscribers.filter keep }
  | added (index? : Option (GridIndex Float)) (triggers : List Trigger) :
      Move s (s.withEngine (.idle (.ofSettings s.settings) index? triggers))
  | adjusted (number : Nat) {change : Engine → Engine}
      (hoptions : ∀ engine, (change engine).options = engine.options)
      (hpropagators : ∀ engine, (change engine).propagators = engine.propagators) :
      Move s (s.modifyEngine number change)
  | tended {number : Nat} {trigger : Trigger} {change : Propagator → Propagator}
      (h : s.Tending number trigger change) : Move s (s.modifyPropagator number trigger change)
  | stopped (number : Nat) : Move s (s.modifyEngine number fun engine =>
      { engine with
        running := false
        index? := engine.index?.map GridIndex.clear
        propagators := engine.propagators.map Propagator.reset })

/-- Any number of moves. -/
def Moves : Session → Session → Prop :=
  Relation.ReflTransGen Move

variable {s t u : Session}

namespace Moves

@[refl] theorem refl (s : Session) : Moves s s :=
  Relation.ReflTransGen.refl

theorem trans (hst : Moves s t) (htu : Moves t u) : Moves s u :=
  Relation.ReflTransGen.trans hst htu

theorem one (h : Move s t) : Moves s t :=
  .single h

/-- What every move keeps is kept by any number of moves. -/
theorem keeps {P : Session → Prop} (hmove : ∀ {s t : Session}, P s → Move s t → P t)
    (h : Moves s t) (hs : P s) : P t := by
  induction h with
  | refl => exact hs
  | tail _ hlast ih => exact hmove ih hlast

end Moves

/-- A move that brings no shape onto the page and no observer to the subscribers. -/
structure Quiet (s t : Session) : Prop where
  move : Move s t
  shapes : t.document.shapes ⊆ s.document.shapes
  observers {topic : Topic} {serial : Nat} {observer : Observer} :
    (topic, .observer serial observer) ∈ t.subscribers →
      (topic, .observer serial observer) ∈ s.subscribers

namespace Quiet

/-- A move is quiet that leaves the shapes and the subscribers as they are. -/
theorem of_same (move : Move s t) (hshapes : t.document.shapes = s.document.shapes)
    (hsubscribers : t.subscribers = s.subscribers) : Quiet s t :=
  ⟨move, hshapes ▸ List.Subset.refl _, fun h => hsubscribers ▸ h⟩

theorem edited {document : Document} (h : s.document.Edit document)
    (hshapes : document.shapes ⊆ s.document.shapes) : Quiet s (s.withDocument document) :=
  ⟨.edited h, hshapes, fun h => h⟩

theorem bound (s : Session) (connector target : String) (terminal : Terminal) (id : String) :
    Quiet s (s.withDocument (s.document.bind connector target terminal id).2) :=
  .edited (.bound connector target terminal id)
    (s.document.bind_shapes connector target terminal id ▸ List.Subset.refl _)

theorem unbound {id : String} {binding : Binding} {document : Document}
    (h : s.document.unbind id = .ok (binding, document)) : Quiet s (s.withDocument document) := by
  obtain ⟨_, rfl⟩ := Document.unbind_ok h
  exact .edited (.unbound h) (List.Subset.refl _)

theorem removed (s : Session) (id : String) : Quiet s (s.withDocument (s.document.remove id)) :=
  .edited (.removed id) (List.filter_subset_self _)

theorem marked (s : Session) (id : String) (marker : Marker) :
    Quiet s (s.withDocument (s.document.mark id marker)) :=
  .edited (.marked id marker) (List.Subset.refl _)

theorem attended (s : Session) (number : Nat) : Quiet s { s with
    subscribers := s.subscribers ++ Topic.all.map fun topic => (topic, .engine number) } := by
  refine ⟨.attended number, List.Subset.refl _, fun h => ?_⟩
  rcases List.mem_append.mp h with hold | hnew
  · exact hold
  · obtain ⟨_, _, hengine⟩ := List.mem_map.mp hnew
    cases hengine

theorem silenced (s : Session) (keep : Topic × Subscriber → Bool) :
    Quiet s { s with subscribers := s.subscribers.filter keep } :=
  ⟨.silenced keep, List.Subset.refl _, fun h => List.mem_of_mem_filter h⟩

end Quiet

end Canvasflow.Session
