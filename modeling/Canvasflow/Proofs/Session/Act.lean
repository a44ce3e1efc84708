import Canvasflow.Proofs.Outcome
import Canvasflow.Session.Perform
import Mathlib.Data.List.Basic

/-!
# Running acts

What is left when an act is run in a session, for the steps from which acts are made and for the
changes of a document. A change that the document accepts hands its notice out in the session that
has the new document; one that it refuses leaves the session as it was.
-/

namespace Canvasflow.Session

open Canvasflow.Connector Canvasflow.Geometry Canvasflow.Page Canvasflow.Propagation

namespace Act

variable {α β : Type}

@[simp] theorem run_pure (a : α) (s : Session) : (pure a : Act α).run s = (.ok a, s) := rfl

@[simp] theorem run_throw (fault : Fault) (s : Session) :
    (throw fault : Act α).run s = (.error fault, s) := rfl

@[simp] theorem run_get (s : Session) : (get : Act Session).run s = (.ok s, s) := rfl

@[simp] theorem run_change (step : Session → Session) (s : Session) :
    (change step).run s = (.ok (), step s) := rfl

@[simp] theorem run_ofPage (result : Except PageFault α) (s : Session) :
    (ofPage result).run s = (result.mapError Fault.page, s) := rfl

@[simp] theorem run_ofGeometry (result : Except Geometry.Fault α) (s : Session) :
    (ofGeometry result).run s = (result.mapError Fault.geometry, s) := rfl

/-- A sequence goes on where its first part succeeds, and ends where it fails. -/
theorem run_bind (first : Act α) (rest : α → Act β) (s : Session) :
    (first >>= rest).run s = match first.run s with
      | (.ok a, t) => (rest a).run t
      | (.error fault, t) => (.error fault, t) := by
  rw [Stateful.run_bind]
  rcases first.run s with ⟨_ | _, t⟩ <;> rfl

@[simp] theorem run_forM_nil (act : α → Act Unit) (s : Session) :
    (([] : List α).forM act).run s = (.ok (), s) := rfl

theorem run_forM_cons (act : α → Act Unit) (a : α) (rest : List α) (s : Session) :
    ((a :: rest).forM act).run s = match (act a).run s with
      | (.ok _, t) => (rest.forM act).run t
      | (.error fault, t) => (.error fault, t) := by
  change (act a >>= fun _ => rest.forM act).run s = _
  rw [run_bind]
  rcases (act a).run s with ⟨_ | _, t⟩ <;> rfl

theorem run_forM_cons_of_ok {act : α → Act Unit} {a : α} {s t : Session}
    (h : (act a).run s = (.ok (), t)) (rest : List α) :
    ((a :: rest).forM act).run s = (rest.forM act).run t := by
  rw [run_forM_cons, h]

theorem run_forM_cons_of_error {act : α → Act Unit} {a : α} {s t : Session} {fault : Fault}
    (h : (act a).run s = (.error fault, t)) (rest : List α) :
    ((a :: rest).forM act).run s = (.error fault, t) := by
  rw [run_forM_cons, h]

end Act

variable (notify : Notify)

theorem run_updateShape (patch : Patch) (s : Session) :
    (updateShape notify patch).run s = match s.document.update patch with
      | .ok (shape, document) => (.ok shape, notify (.changed shape) (s.withDocument document))
      | .error fault => (.error (.page fault), s) := by
  simp only [updateShape, store, Act.run_bind, Act.run_get, Act.run_ofPage]
  cases s.document.update patch <;> rfl

theorem run_createShape (new : NewShape) (s : Session) :
    (createShape notify new).run s = match s.document.create new with
      | (.ok shape, document) => (.ok shape, notify (.created shape) (s.withDocument document))
      | (.error fault, document) => (.error (.page fault), s.withDocument document) := by
  simp only [createShape, store, Act.run_bind, Act.run_get]
  rcases s.document.create new with ⟨_ | _, document⟩ <;> rfl

theorem run_createBinding (connector target : String) (terminal : Terminal) (id : String)
    (s : Session) :
    (createBinding notify connector target terminal id).run s =
      match s.document.bind connector target terminal id with
      | (.ok binding, document) => (.ok binding, notify (.bound binding) (s.withDocument document))
      | (.error fault, document) => (.error (.page fault), s.withDocument document) := by
  simp only [createBinding, store, Act.run_bind, Act.run_get]
  rcases s.document.bind connector target terminal id with ⟨_ | _, document⟩ <;> rfl

theorem run_deleteBinding (id : String) (s : Session) :
    (deleteBinding notify id).run s = match s.document.unbind id with
      | .ok (binding, document) => (.ok (), notify (.unbound binding) (s.withDocument document))
      | .error fault => (.error (.page fault), s) := by
  simp only [deleteBinding, store, Act.run_bind, Act.run_get, Act.run_ofPage]
  cases s.document.unbind id <;> rfl

/-- What setting a marker leaves, whether it fails or not. -/
theorem attempt_setMarker (id : String) (marker : Marker) (s : Session) :
    Act.attempt (setMarker notify id marker) s = match s.document.shape? id with
      | none => s
      | some shape =>
        let marked := s.withDocument (s.document.mark id marker)
        match s.document.recoloring? shape marker with
        | some patch => ((updateShape notify patch).run marked).2
        | none => marked := by
  simp only [Act.attempt, setMarker, Act.run_bind, Act.run_get]
  cases s.document.shape? id with
  | none => rfl
  | some shape =>
    cases hpatch : s.document.recoloring? shape marker with
    | none => simp only [hpatch]; rfl
    | some patch =>
      simp only [hpatch, Act.run_bind, Act.run_change]
      rcases (updateShape notify patch).run _ with ⟨_ | _, t⟩ <;> rfl

/-! ## Notices -/

theorem document_withDocument (s : Session) (document : Document) :
    (s.withDocument document).document = document := rfl

theorem document_recordNotice (s : Session) (notice : Notice) :
    (s.recordNotice notice).document = s.document := by
  unfold recordNotice
  split <;> rfl

theorem subscribers_recordNotice (s : Session) (notice : Notice) :
    (s.recordNotice notice).subscribers = s.subscribers := by
  unfold recordNotice
  split <;> rfl

/-- Where no one is told of anything, a notice is only written down. -/
theorem notifyWithin_unheard {s : Session} (h : s.subscribers = []) (span depth : Nat)
    (notice : Notice) : notifyWithin span depth notice s = s.recordNotice notice := by
  have hrecorded := (subscribers_recordNotice s notice).trans h
  cases depth with
  | zero => rfl
  | succ depth => simp [notifyWithin, handOut, subscribersOf, hrecorded]

end Canvasflow.Session
