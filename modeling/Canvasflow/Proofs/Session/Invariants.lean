import Canvasflow.Proofs.Session.Reactive

/-!
# Invariants of a session

What is kept by everything that can happen to a session. An `Invariant` is a property of sessions
that quiet moves keep, and that new shapes, patches and observers keep when they come from a command
that fits. Commands arise inside a session, too: an observer answers, a run writes its result, a
connector is coloured; those have to fit by the invariant itself. `Invariant.after_keeps` concludes
that an invariant is kept by all fitting commands, with all the reactions that they set off in
engines and observers, however deep their notices nest.

That a session is reached by moves is the first such invariant (`after_moves`).
-/

namespace Canvasflow.Session

open Canvasflow.Connector Canvasflow.Geometry Canvasflow.Page Canvasflow.Propagation
open Canvasflow.Program (Compiled)

/-- A property of sessions that is kept by whatever happens after a command that fits. -/
structure Invariant (P : Session → Prop) (fits : Command → Prop) : Prop where
  quiet {s t : Session} : P s → Quiet s t → P t
  created {s : Session} {new : NewShape} : P s → fits (.create new) →
    P (s.withDocument (s.document.create new).2)
  updated {s : Session} {patch : Patch} {shape : Shape} {document : Document} : P s →
    fits (.update patch) → s.document.update patch = .ok (shape, document) →
    P (s.withDocument document)
  subscribed {s : Session} {observer : Observer} : P s →
    fits (.subscribe observer.topic observer.name observer.fails observer.reaction?) →
    P (subscribe observer s)
  answers {s : Session} {topic : Topic} {serial : Nat} {observer : Observer} {command : Command} :
    P s → (topic, .observer serial observer) ∈ s.subscribers → observer.reaction? = some command →
    fits command
  ran {s t : Session} {engine : Engine} {program : Compiled} {edge : Edge} {source target : Shape}
    {patch : Patch} {lines : Array String} : P s → P t →
    s.document.shape? edge.source = some source → s.document.shape? edge.target = some target →
    t.execute engine program source target = (.ok (some patch), lines) → fits (.update patch)
  coloured {s : Session} {id : String} {shape : Shape} {marker : Marker} {patch : Patch} : P s →
    s.document.shape? id = some shape → s.document.recoloring? shape marker = some patch →
    fits (.update patch)
  connected {s : Session} {source text id : String} {start : Shape} : P s →
    s.document.shape? source = some start → fits (.create
      { type := s.document.style.connectorType, x := .double start.x, y := .double start.y, id := id
        props := [("text", .str text), ("color", .str s.document.style.okColor)] })
  loaded {scene : Scene} {shape : Scene.StoredShape} : fits (.load (.ok scene)) →
    shape ∈ scene.shapes → fits (.create shape.toNew)

variable {P : Session → Prop} {fits : Command → Prop} {s : Session}

namespace Invariant

/-- What the patches of runs and colours are held to by an invariant. -/
theorem reactive (h : Invariant P fits) : Reactive P fun patch => fits (.update patch) where
  offPage hs hmove := h.quiet hs hmove.toQuiet
  marked hs _ marker := h.quiet hs (.marked _ _ marker)
  updated := h.updated
  ran := h.ran
  coloured := h.coloured

variable (h : Invariant P fits) {notify : Notify}
  (hnotify : ∀ notice s, P s → P (notify notice s))

/-! ## Changes of the page -/

section Changes

include h hnotify

theorem createShape_keeps {new : NewShape} (hfits : fits (.create new)) :
    (createShape notify new).Keeps P s := by
  intro hs
  have hcreated := h.created hs hfits
  rw [run_createShape]
  generalize s.document.create new = made at hcreated ⊢
  obtain ⟨fault | shape, document⟩ := made
  · exact hcreated
  · exact hnotify (.created shape) _ hcreated

theorem createBinding_keeps (connector target : String) (terminal : Terminal) (id : String) :
    (createBinding notify connector target terminal id).Keeps P s := by
  intro hs
  have hbound := h.quiet hs (.bound s connector target terminal id)
  rw [run_createBinding]
  generalize s.document.bind connector target terminal id = made at hbound ⊢
  obtain ⟨fault | binding, document⟩ := made
  · exact hbound
  · exact hnotify (.bound binding) _ hbound

theorem deleteBinding_keeps (id : String) : (deleteBinding notify id).Keeps P s := by
  intro hs
  rw [run_deleteBinding]
  cases hunbind : s.document.unbind id with
  | error fault => exact hs
  | ok undone => exact hnotify (.unbound undone.1) _ (h.quiet hs (.unbound hunbind))

theorem connect_keeps (connector source target : String) :
    (connect notify connector source target).Keeps P s :=
  .bind (h.createBinding_keeps hnotify _ _ _ _) fun _ _ =>
    .bind (h.createBinding_keeps hnotify _ _ _ _) fun _ _ => .pure _

theorem createConnector_keeps (source target text id : String) :
    (createConnector notify source target text id).Keeps P s := by
  refine .get fun hs => ?_
  dsimp only
  split
  · exact hs
  · rename_i start hstart
    exact Act.Keeps.bind (h.createShape_keeps hnotify (h.connected hs hstart)) (fun _ _ =>
      .bind (h.connect_keeps hnotify _ _ _) fun _ _ => .pure _) hs

theorem loosen_keeps (id : String) : (loosen notify id).Keeps P s :=
  .get (Act.Keeps.forM fun _ _ _ => h.deleteBinding_keeps hnotify _)

theorem takeOff_keeps (id : String) (shape : Shape) : (takeOff notify id shape).Keeps P s := by
  refine .get fun hs => ?_
  dsimp only
  split
  · exact hs
  · exact hnotify (.deleted shape) _ (h.quiet hs (.removed s id))

theorem deleteShape_keeps (depth : Nat) (id : String) :
    (deleteShape notify depth id).Keeps P s := by
  induction depth generalizing id s with
  | zero => exact .throw _
  | succ depth ih =>
    unfold deleteShape
    refine .get fun hs => ?_
    split
    · exact hs
    · refine Act.Keeps.get (Act.Keeps.bind (.forM fun _ _ _ => ih _) fun _ _ => ?_) hs
      exact .bind (h.loosen_keeps hnotify id) fun _ _ => h.takeOff_keeps hnotify id _

theorem applyScene_keeps {scene : Scene} (hfits : fits (.load (.ok scene))) :
    (applyScene notify scene).Keeps P s := by
  refine .adapt (.bind (.forM fun shape hshape _ => ?_) fun _ _ => .forM fun _ _ _ => ?_)
  · exact .bind (h.createShape_keeps hnotify (h.loaded hfits hshape)) fun _ _ => .pure _
  · exact .bind (h.createBinding_keeps hnotify _ _ _ _) fun _ _ => .pure _

end Changes

/-! ## Commands -/

section Commands

include h hnotify

theorem carryOut_keeps (depth : Nat) {command : Command} (hfits : fits command) :
    (carryOut notify depth command).Keeps P s := by
  cases command with
  | create new => exact .bind (h.createShape_keeps hnotify hfits) fun _ _ => .pure _
  | connector source target text id =>
    exact .bind (h.createConnector_keeps hnotify _ _ _ _) fun _ _ => .pure _
  | update patch => exact .bind (h.reactive.updateShape_keeps hnotify hfits) fun _ _ => .pure _
  | delete id => exact .bind (h.deleteShape_keeps hnotify depth id) fun _ _ => .pure _
  | bind connector target terminal id =>
    exact .bind (h.createBinding_keeps hnotify _ _ _ _) fun _ _ => .pure _
  | connect connector source target =>
    exact .bind (h.connect_keeps hnotify _ _ _) fun _ _ => .pure _
  | unbind id => exact .bind (h.deleteBinding_keeps hnotify id) fun _ _ => .pure _
  | mark id marker =>
    exact .bind (h.reactive.setMarker_keeps hnotify id marker) fun _ _ => .pure _
  | load scene =>
    cases scene with
    | error fault => exact .throw _
    | ok scene => exact .bind (h.applyScene_keeps hnotify hfits) fun _ _ => .pure _
  | subscribe topic name fails reaction? => exact fun hs => h.subscribed hs hfits
  | _ => exact h.reactive.carryOut_keeps hnotify depth rfl

theorem handOut_keeps (depth : Nat) (notice : Notice) (hs : P s) :
    P (handOut notify depth notice s) :=
  h.reactive.handOut_keeps hnotify depth notice
    (fun hmem hcommand => h.carryOut_keeps hnotify depth
      (h.answers (h.reactive.recordNotice_keeps notice hs) hmem hcommand)) hs

end Commands

/-- Handing out a notice, to any depth, keeps an invariant. -/
theorem notifyWithin_keeps (h : Invariant P fits) (span depth : Nat) (notice : Notice) (s : Session)
    (hs : P s) : P (notifyWithin span depth notice s) := by
  induction depth generalizing notice s with
  | zero => exact h.reactive.recordNotice_keeps notice hs
  | succ depth ih => exact h.handOut_keeps ih span notice hs

/-- Carrying out a command that fits keeps an invariant. -/
theorem perform_keeps (h : Invariant P fits) {command : Command} (hfits : fits command) (hs : P s) :
    P (s.perform command).2 :=
  h.carryOut_keeps (h.notifyWithin_keeps _ _) _ hfits hs

/-- So does carrying out one command after another. -/
theorem after_keeps (h : Invariant P fits) {commands : List Command}
    (hfits : ∀ command ∈ commands, fits command) (hs : P s) : P (s.after commands) :=
  foldl_keeps (fun command hmem _ hs => h.perform_keeps (hfits command hmem) hs) hs

end Invariant

/-- That a session is reached by moves is kept by whatever happens. -/
theorem moves_invariant (s : Session) : Invariant (Moves s) fun _ => True where
  quiet hmoves hquiet := hmoves.trans (.one hquiet.move)
  created hmoves _ := hmoves.trans (.one (.edited (.created _)))
  updated hmoves _ hupdate := hmoves.trans (.one (.edited (.updated hupdate)))
  subscribed hmoves _ := hmoves.trans (.one (.subscribed _))
  answers _ _ _ := trivial
  ran _ _ _ _ _ := trivial
  coloured _ _ _ := trivial
  connected _ _ := trivial
  loaded _ _ := trivial

/-- Carrying out one command after another is a sequence of moves. -/
theorem after_moves (s : Session) (commands : List Command) : Moves s (s.after commands) :=
  (moves_invariant s).after_keeps (fun _ _ => trivial) (.refl s)

/-- Whatever is done, the style of the page stays. -/
theorem after_style (s : Session) (commands : List Command) :
    (s.after commands).document.style = s.document.style := by
  refine Moves.keeps (P := fun t => t.document.style = s.document.style) (fun ht hmove => ?_)
    (after_moves s commands) rfl
  cases hmove with
  | edited h => exact h.style.trans ht
  | _ => exact ht

/-- Whatever is done, shapes and bindings are stored under their own identities. -/
theorem after_named (hs : s.document.Named) (commands : List Command) :
    (s.after commands).document.Named := by
  refine Moves.keeps (P := fun t => t.document.Named) (fun ht hmove => ?_)
    (after_moves s commands) hs
  cases hmove with
  | edited h => exact ht.edit h
  | _ => exact ht

end Canvasflow.Session
