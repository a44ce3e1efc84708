import Canvasflow.Proofs.Program.Execution
import Canvasflow.Proofs.Propagation.Tracks
import Canvasflow.Proofs.Session.Cascade

/-!
# What a run may touch

A guarded run of a connector, where no one is told of what it changes. Whatever the program does to
the records that it gets and whatever it returns, the run writes at most the target of its edge, and
only if it succeeds, and marks the connector. Shapes keep their order, identities, types and
parents, and bindings stay as they are. `Confined` says so of two pages, and
`propagate_confined` concludes it for every run.
-/

namespace Canvasflow.Page.Document

/-- Two pages of which the second differs from the first at most in the marker and the colour of a
connector, and in the shape of one more identity if there is one. The plan of a page is the order of
its shapes, with the identity, the type and the parent of each. -/
structure Confined (connector : String) (target? : Option String) (before after : Document) :
    Prop where
  plan : after.plan = before.plan
  bindings : after.bindings = before.bindings
  style : after.style = before.style
  marker : ∀ id, id ≠ connector → after.marker? id = before.marker? id
  shape : ∀ id, id ≠ connector → some id ≠ target? → after.shape? id = before.shape? id
  colour : some connector ≠ target? →
    after.shape? connector = before.shape? connector ∨
    ∃ shape color, before.shape? connector = some shape ∧
      after.shape? connector = some { shape with props := Entries.set "color" color shape.props }

namespace Confined

variable {connector : String} {target? : Option String} {before middle after : Document}

@[refl] theorem refl (connector : String) (target? : Option String) (document : Document) :
    Confined connector target? document document :=
  ⟨rfl, rfl, rfl, fun _ _ => rfl, fun _ _ _ => rfl, fun _ => .inl rfl⟩

theorem sound (h : Confined connector target? before after) (hsound : before.Sound) : after.Sound :=
  hsound.congr h.plan h.bindings h.style

/-- A marker and a colour come on top of whatever else was changed. -/
theorem trans (h : Confined connector target? before middle)
    (hnext : Confined connector none middle after) : Confined connector target? before after where
  plan := hnext.plan.trans h.plan
  bindings := hnext.bindings.trans h.bindings
  style := hnext.style.trans h.style
  marker id hid := (hnext.marker id hid).trans (h.marker id hid)
  shape id hid htarget := (hnext.shape id hid nofun).trans (h.shape id hid htarget)
  colour htarget := by
    obtain hsame | ⟨shape, color, hshape, hcoloured⟩ := hnext.colour nofun
    · rw [hsame]
      exact h.colour htarget
    · obtain hsame | ⟨old, color', hold, hcoloured'⟩ := h.colour htarget
      · exact .inr ⟨shape, color, hsame ▸ hshape, hcoloured⟩
      · refine .inr ⟨old, color, hold, ?_⟩
        obtain rfl : _ = shape := Option.some.inj (hcoloured'.symm.trans hshape)
        rw [hcoloured, Entries.set_set]

/-- A patch is confined to the shape that it names. -/
theorem update {patch : Patch} {shape : Shape} (h : before.update patch = .ok (shape, after))
    (connector : String) : Confined connector (some patch.id) before after := by
  have hplan := plan_update h
  obtain ⟨old, _, _, rfl⟩ := update_ok h
  have hother {id : String} (hid : some id ≠ some patch.id) :
      Entries.find? id (Entries.set patch.id shape before.shapes) = before.shape? id :=
    Entries.find?_set_of_ne (fun heq => hid (by rw [heq])) _ _
  exact ⟨hplan, rfl, rfl, fun _ _ => rfl, fun _ _ => hother, fun hid => .inl (hother hid)⟩

theorem mark (document : Document) (connector : String) (marker : Marker) :
    Confined connector none document (document.mark connector marker) :=
  ⟨rfl, rfl, rfl, fun _ hid => Entries.find?_set_of_ne hid _ _, fun _ _ _ => rfl, fun _ => .inl rfl⟩

/-- Giving a connector the colour of a marker. -/
theorem recolour (hsound : before.Sound) {shape changed : Shape} {marker : Marker} {patch : Patch}
    (hshape : before.shape? connector = some shape)
    (hpatch : before.recoloring? shape marker = some patch)
    (h : before.update patch = .ok (changed, after)) : Confined connector none before after := by
  have hid : patch.id = connector := by
    rw [(recoloring_some hpatch).1]
    exact hsound.id_eq hshape
  have hplan := plan_update h
  obtain ⟨old, hold, hpatched, rfl⟩ := update_ok h
  rw [hid] at hold
  obtain rfl : shape = old := Option.some.inj (hshape.symm.trans hold)
  have hchanged := patched_recoloring hpatch hpatched
  refine ⟨hplan, rfl, rfl, fun _ _ => rfl, fun id hne _ => ?_,
    fun _ => .inr ⟨shape, .str (before.style.color marker), hshape, ?_⟩⟩
  · exact Entries.find?_set_of_ne (hid ▸ hne) _ _
  · rw [← hchanged, ← hid]
    exact Entries.find?_set_self _ _ _

end Confined

end Canvasflow.Page.Document

namespace Canvasflow.Session

open Canvasflow.Connector Canvasflow.Page Canvasflow.Program Canvasflow.Propagation

variable {s : Session}

/-! ## Steps -/

theorem measured_offBudget {α : Type} (result : Except Geometry.Fault α) (toData : α → Data) :
    FailsAs Failure.OffBudget (measured result toData) := by
  cases result with
  | ok value => exact .ok _
  | error fault =>
    refine FailsAs.error_iff.mpr ?_
    rcases fault with (_ | _ | _) | (_ | _) | _ <;> simp [failureOf]

/-- What a session answers to a program never fails for want of steps. -/
theorem world_offBudget (s : Session) (engine : Engine) : (s.world engine).OffBudget := by
  intro question
  cases question with
  | shape | pageShapes | pagePoint | distance => exact .ok _
  | bounds id =>
    cases id with
    | none => exact .ok _
    | some id => exact measured_offBudget _ _
  | _ => exact measured_offBudget _ _

/-- A connector's program takes at most one step beyond its budget, and it takes that step exactly
when it stops for want of steps. -/
theorem program_steps (s : Session) (engine : Engine) (program : Compiled) (heap : Heap)
    (stamps : Nat) (parameters : Parameters) :
    let result := program.run (s.world engine) heap stamps parameters
    result.2.steps ≤ program.maxSteps.toNat + 1 ∧
      (result.2.steps = program.maxSteps.toNat + 1 ↔
        result.1 = .error (.program (.stepBudget program.maxSteps))) :=
  ⟨run_steps_le rfl, run_steps_eq_iff (s.world_offBudget engine) rfl⟩

/-! ## Shapes -/

section Unheard

variable (h : s.subscribers = []) (hsound : s.document.Sound) (span depth : Nat)
include h

theorem run_updateShape_unheard (patch : Patch) :
    (updateShape (notifyWithin span depth) patch).run s = match s.document.update patch with
      | .ok (shape, document) =>
        (.ok shape, (s.withDocument document).recordNotice (.changed shape))
      | .error fault => (.error (.page fault), s) := by
  rw [run_updateShape]
  cases s.document.update patch with
  | error fault => rfl
  | ok stored => simp only [notifyWithin_unheard (s := s.withDocument stored.2) h]

include hsound

/-- Setting a marker touches nothing but the marker and the colour. -/
theorem tryMark_confined (connector : String) (marker : Marker) :
    s.document.Confined connector none
      (tryMark (notifyWithin span depth) connector marker s).document := by
  rw [tryMark, attempt_setMarker]
  cases hshape : s.document.shape? connector with
  | none => exact .refl ..
  | some shape =>
    have hmark := Document.Confined.mark s.document connector marker
    cases hpatch : s.document.recoloring? shape marker with
    | none =>
      simp only [hpatch]
      exact hmark
    | some patch =>
      have hmarked : (s.withDocument (s.document.mark connector marker)).subscribers = [] := h
      simp only [hpatch, run_updateShape_unheard hmarked]
      cases hupdate : (s.document.mark connector marker).update patch with
      | error fault =>
        simp only [document_withDocument, hupdate]
        exact hmark
      | ok stored =>
        simp only [document_withDocument, hupdate, document_recordNotice]
        exact hmark.trans (.recolour (hmark.sound hsound) hshape hpatch hupdate)

/-- The run of an edge touches nothing but its target, and nothing at all if it fails. -/
theorem runEdge_confined (number : Nat) (trigger : Trigger) (edge : Edge) :
    let ending := (runEdge (notifyWithin span depth) number trigger edge).run s
    ending.2.subscribers = [] ∧ (ending.1.isOk = false → ending.2.document = s.document) ∧
      s.document.Confined edge.connector (some edge.target) ending.2.document := by
  have hrefl := Document.Confined.refl edge.connector (some edge.target) s.document
  simp only [runEdge, Act.run_bind, Act.run_get]
  cases hsource : s.document.shape? edge.source with
  | none => exact ⟨h, fun _ => rfl, hrefl⟩
  | some source =>
    cases htarget : s.document.shape? edge.target with
    | none => exact ⟨h, fun _ => rfl, hrefl⟩
    | some target =>
      obtain ⟨program?, t, hlookUp, hcache⟩ := run_lookUpProgram number trigger edge.connector s
      obtain ⟨hunheard, hdocument⟩ : t.subscribers = [] ∧ t.document = s.document := by
        rcases hcache with rfl | ⟨cache, rfl⟩ <;> exact ⟨h, rfl⟩
      simp only [hlookUp, Act.run_bind]
      cases program? with
      | none => exact ⟨hunheard, fun _ => hdocument, hdocument ▸ hrefl⟩
      | some program =>
        simp only [Act.run_bind, Act.run_get, Act.run_change]
        rcases hexecute : t.execute (t.engineAt number) program source target with ⟨outcome, lines⟩
        rcases outcome with fault | ⟨_ | patch⟩
        · exact ⟨hunheard, fun _ => hdocument, hdocument ▸ hrefl⟩
        · exact ⟨hunheard, fun _ => hdocument, hdocument ▸ hrefl⟩
        · -- Whatever identity the program returned, the patch names the target.
          have hid : patch.id = edge.target := (execute_id hexecute).trans (hsound.id_eq htarget)
          have hlogged : ({ t with log := t.log ++ lines } : Session).subscribers = [] := hunheard
          simp only [Act.run_bind, run_updateShape_unheard hlogged]
          cases hupdate : t.document.update patch with
          | error fault => exact ⟨hunheard, fun _ => hdocument, hdocument ▸ hrefl⟩
          | ok stored =>
            rw [hdocument] at hupdate
            refine ⟨(subscribers_recordNotice ..).trans hunheard,
              fun hfailed => Bool.noConfusion hfailed, ?_⟩
            simp only [Act.run_pure, document_recordNotice, document_withDocument, ← hid]
            exact .update hupdate edge.connector

end Unheard

/-- The connector of an edge is the shape that it was read off. -/
theorem edge_connector (hsound : s.document.Sound) {engine : Engine} {connector : String}
    {edge : Edge} (h : s.edge? engine connector = some edge) : edge.connector = connector := by
  obtain ⟨shape, hshape, hedge⟩ := Option.bind_eq_some_iff.mp h
  exact (Edge.of?_some hedge).2.1.trans (hsound.id_eq hshape)

/-- What a guarded run may touch where no one is told of it. If it does not succeed, it leaves the
page as it was but for the marker and the colour of the connector. If it succeeds, the target of the
edge may have changed as well, and nothing else. -/
theorem propagate_confined (s : Session) (hunheard : s.subscribers = [])
    (hsound : s.document.Sound) (span depth number : Nat) (trigger : Trigger) (connector : String) :
    let ending := propagate (notifyWithin span depth) number trigger connector s
    (ending.1 = false → s.document.Confined connector none ending.2.document) ∧
    (ending.1 = true → ∃ edge, s.edge? (s.engineAt number) connector = some edge ∧
      s.document.Confined connector (some edge.target) ending.2.document) := by
  have hrefl := Document.Confined.refl connector none s.document
  cases hidle : (s.engineAt number).guard.isRunning connector with
  | true =>
    rw [propagate_idle _ trigger (.inl hidle)]
    exact ⟨fun _ => hrefl, nofun⟩
  | false =>
    cases hedge : s.edge? (s.engineAt number) connector with
    | none =>
      rw [propagate_idle _ trigger (.inr hedge)]
      exact ⟨fun _ => hrefl, nofun⟩
    | some edge =>
      cases henter : (s.engineAt number).guard.enter connector with
      | error fault =>
        rw [propagate_refused _ trigger hidle hedge henter]
        exact ⟨fun _ => tryMark_confined hunheard hsound span depth connector .error, nofun⟩
      | ok entered =>
        rw [propagate_entered _ trigger hidle hedge henter]
        have hbegun : (s.withGuard number entered).subscribers = [] := hunheard
        obtain ⟨hquiet, hfailed, hran⟩ :=
          runEdge_confined hbegun hsound span depth number trigger edge
        rw [edge_connector hsound hedge] at hran
        generalize (runEdge (notifyWithin span depth) number trigger edge).run
          (s.withGuard number entered) = run at hquiet hfailed hran ⊢
        have hmarked := tryMark_confined hquiet (hran.sound hsound) span depth connector
          (if run.1.isOk then .ok else .error)
        refine ⟨fun hno => ?_, fun _ => ⟨edge, rfl, hran.trans hmarked⟩⟩
        have hsame := hfailed hno
        rwa [hsame] at hmarked

/-- Two shapes that are joined by a connector of the given text. -/
def bridge (text : String) : Document :=
  let lower := ((Document.empty (styleOf .defaults)).create { type := "geo", id := "a" }).2
  let upper := (lower.create { type := "geo", id := "b" }).2
  let held := (upper.create { type := "arrow", id := "c", props := [("text", .str text)] }).2
  ((held.bind "c" "a" .start "").2.bind "c" "b" .finish "").2

theorem bridge_sound (text : String) : (bridge text).Sound :=
  (((((Document.Sound.empty _).created _).created _).created _).bound _ _ _ _).bound _ _ _ _

/-- A session in which no one is told of anything, with a propagator on its own. -/
def secluded (text : String) : Session :=
  ((new .defaults (bridge text)).perform (.standalone .change)).2

/-- A program that writes into the record of its target and returns one under another name. -/
def usurper : String := "() { to.x = 7; return {id : from.id, type : 5}; }"

/-- A program that writes into the record of its target and then fails. -/
def spoiler : String := "() { to.x = 7; return nowhere; }"

theorem usurper_and_spoiler_confined :
    let usurped := propagate (notifyWithin 2 2) 0 .change "c" (secluded usurper)
    let spoilt := propagate (notifyWithin 2 2) 0 .change "c" (secluded spoiler)
    usurped.1 = true ∧ usurped.2.document.shape? "a" = (bridge usurper).shape? "a" ∧
      spoilt.1 = false ∧ spoilt.2.document.shape? "b" = (bridge spoiler).shape? "b" := by
  intro usurped spoilt
  have hsucceeds : usurped.1 = true := by decide +kernel
  have hfails : spoilt.1 = false := by decide +kernel
  obtain ⟨_, hconfined⟩ :=
    propagate_confined (secluded usurper) rfl (bridge_sound usurper) 2 2 0 .change "c"
  obtain ⟨hunchanged, _⟩ :=
    propagate_confined (secluded spoiler) rfl (bridge_sound spoiler) 2 2 0 .change "c"
  obtain ⟨edge, hedge, hwritten⟩ := hconfined hsucceeds
  have htarget : (((secluded usurper).edge? ((secluded usurper).engineAt 0) "c").map Edge.target) =
    some "b" := by decide +kernel
  rw [hedge] at htarget
  have hother : some "a" ≠ some edge.target := by
    rw [Option.map_some] at htarget
    rw [htarget]
    decide
  exact ⟨hsucceeds, hwritten.shape "a" (by decide) hother, hfails,
    (hunchanged hfails).shape "b" (by decide) nofun⟩

end Canvasflow.Session
