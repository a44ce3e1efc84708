import Canvasflow.Proofs.Page.Plan
import Canvasflow.Proofs.Session.Act

/-!
# What cascades keep

Most of a session stays as it is while an engine reacts: who is told of what, what the engine takes
from its settings, whenever a run has come back its guard, and the plan and the bindings of the
page. That is `Kept`, and `Steady` is the part of it that stays whatever is done to the page. A
session is `Fit` when everything that its subscribers do is done by one engine, its page is sound,
and the guard of the engine is; `Kept.fit` says that fit sessions stay fit.

The guard changes during a run, and `Kept.enter` and `Kept.leave` take a run apart: what is kept
under the guard that the run has pushed is kept under the guard as it was once the run has been
taken off.
-/

namespace Canvasflow.Propagation.Guard

/-- A guard on which every connector stands at most once, and no more of them than the limit
allows. -/
structure Sound (guard : Guard) : Prop where
  distinct : guard.stack.Nodup
  limited : guard.stack.length ≤ guard.limit.toNat

theorem idle_sound (limit : Int) : (idle limit).Sound :=
  ⟨List.nodup_nil, Nat.zero_le _⟩

/-- What a guard does that lets a connector run. -/
theorem enter_ok {guard entered : Guard} {connector : String}
    (h : guard.enter connector = .ok entered) :
    guard.stack.length < guard.limit.toNat ∧
      entered = { guard with stack := guard.stack ++ [connector] } := by
  unfold enter depth at h
  split at h
  · cases h
  · cases h
    exact ⟨by omega, rfl⟩

/-- A guard that lets no connector run has as many running as its limit allows. -/
theorem enter_error {guard : Guard} {connector : String} {fault : DepthFault}
    (h : guard.enter connector = .error fault) : guard.limit.toNat ≤ guard.stack.length := by
  unfold enter depth at h
  split at h
  · omega
  · cases h

/-- A guard stays sound when a connector is let run that was not running. -/
theorem Sound.enter {guard entered : Guard} (h : guard.Sound) {connector : String}
    (hidle : guard.isRunning connector = false) (henter : guard.enter connector = .ok entered) :
    entered.Sound := by
  obtain ⟨hroom, rfl⟩ := enter_ok henter
  have hnew : connector ∉ guard.stack := by simpa [isRunning] using hidle
  constructor
  · exact List.nodup_append.mpr ⟨h.distinct, by simp, by
      rintro a ha b hb rfl
      simp only [List.mem_singleton] at hb
      exact hnew (hb ▸ ha)⟩
  · rw [List.length_append, List.length_singleton]
    exact hroom

end Canvasflow.Propagation.Guard

namespace Canvasflow.Session

open Canvasflow.Connector Canvasflow.Geometry Canvasflow.Page Canvasflow.Propagation

/-! ## Engines of changed sessions -/

section Engines

variable {s : Session} {number : Nat}

theorem engineAt_modifyEngine (h : number < s.engines.length) (change : Engine → Engine) :
    (s.modifyEngine number change).engineAt number = change (s.engineAt number) := by
  simp [engineAt, modifyEngine, List.getElem?_modify_eq, List.getElem?_eq_getElem h]

theorem engineAt_modifyEngine_of_ne {other : Nat} (h : number ≠ other)
    (change : Engine → Engine) :
    (s.modifyEngine number change).engineAt other = s.engineAt other := by
  simp [engineAt, modifyEngine, List.getElem?_modify_ne, h]

theorem modifyEngine_of_absent (h : s.engines.length ≤ number) (change : Engine → Engine) :
    s.modifyEngine number change = s := by
  simp [modifyEngine, List.modify_eq_self h]

@[simp] theorem length_modifyEngine (s : Session) (number : Nat) (change : Engine → Engine) :
    (s.modifyEngine number change).engines.length = s.engines.length := by
  simp [modifyEngine]

@[simp] theorem document_modifyEngine (s : Session) (number : Nat) (change : Engine → Engine) :
    (s.modifyEngine number change).document = s.document := rfl

@[simp] theorem engineAt_note (s : Session) (step : Step) (number : Nat) :
    (s.note step).engineAt number = s.engineAt number := rfl

@[simp] theorem engineAt_withDocument (s : Session) (document : Document) (number : Nat) :
    (s.withDocument document).engineAt number = s.engineAt number := rfl

theorem modify_triggers (engine : Engine) (trigger : Trigger) {change : Propagator → Propagator}
    (h : ∀ propagator, (change propagator).trigger = propagator.trigger) :
    (engine.modify trigger change).triggers = engine.triggers := by
  simp only [Engine.triggers, Engine.modify, List.map_map]
  apply List.map_congr_left
  intro propagator _
  simp only [Function.comp_apply]
  split
  · exact h propagator
  · rfl

end Engines

/-! ## Sessions that are kept -/

/-- Whether a step of the trail leaves the guard of an engine sound, if it is about that guard. -/
def Step.Fits (step : Step) (number : Nat) (limit : Int) : Prop :=
  ∀ stack, step = .running number stack → (⟨limit, stack⟩ : Guard).Sound

/-- A session in which everything that subscribers do is done by one engine. -/
structure Fit (number : Nat) (s : Session) : Prop where
  present : number < s.engines.length
  heard : ∀ entry ∈ s.subscribers, ∃ topic, entry = (topic, .engine number)
  sound : s.document.Sound
  guarded : (s.engineAt number).guard.Sound

/-- What stays between two sessions whatever is done to the page: those who are told, and what is
fixed about an engine whenever its runs have come back. -/
structure Steady (number : Nat) (s t : Session) : Prop where
  subscribers : t.subscribers = s.subscribers
  engines : t.engines.length = s.engines.length
  options : (t.engineAt number).options = (s.engineAt number).options
  guard : (t.engineAt number).guard = (s.engineAt number).guard
  triggers : (t.engineAt number).triggers = (s.engineAt number).triggers
  indexed : (s.engineAt number).index?.isSome → (t.engineAt number).index?.isSome
  style : t.document.style = s.document.style
  trail : ∃ steps, t.trail = steps ++ s.trail ∧
    ∀ step ∈ steps, step.Fits number (s.engineAt number).guard.limit

/-- What stays between two sessions while an engine reacts. -/
structure Kept (number : Nat) (s t : Session) : Prop extends Steady number s t where
  bindings : t.document.bindings = s.document.bindings
  plan : t.document.plan = s.document.plan

variable {number : Nat} {s t u : Session}

namespace Steady

@[refl] theorem refl (number : Nat) (s : Session) : Steady number s s :=
  ⟨rfl, rfl, rfl, rfl, rfl, id, rfl, [], rfl, by simp⟩

theorem trans (hst : Steady number s t) (htu : Steady number t u) : Steady number s u := by
  obtain ⟨first, hfirst, hfits⟩ := hst.trail
  obtain ⟨second, hsecond, hfits'⟩ := htu.trail
  refine ⟨htu.subscribers.trans hst.subscribers, htu.engines.trans hst.engines,
    htu.options.trans hst.options, htu.guard.trans hst.guard, htu.triggers.trans hst.triggers,
    htu.indexed ∘ hst.indexed, htu.style.trans hst.style, second ++ first,
    by rw [hsecond, hfirst, List.append_assoc], ?_⟩
  intro step hstep
  rcases List.mem_append.mp hstep with hlate | hearly
  · exact hst.guard ▸ hfits' step hlate
  · exact hfits step hearly

/-- What nobody but the page sees. -/
theorem withDocument (s : Session) {document : Document}
    (hstyle : document.style = s.document.style) :
    Steady number s (s.withDocument document) :=
  ⟨rfl, rfl, rfl, rfl, rfl, id, hstyle, [], rfl, by simp⟩

/-- A session stays fit while its page stays sound. -/
theorem fit (h : Steady number s t) (hfit : Fit number s) (hsound : t.document.Sound) :
    Fit number t where
  present := h.engines ▸ hfit.present
  heard := h.subscribers ▸ hfit.heard
  sound := hsound
  guarded := h.guard ▸ hfit.guarded

end Steady

namespace Kept

@[refl] theorem refl (number : Nat) (s : Session) : Kept number s s :=
  ⟨.refl number s, rfl, rfl⟩

theorem trans (hst : Kept number s t) (htu : Kept number t u) : Kept number s u :=
  ⟨hst.toSteady.trans htu.toSteady, htu.bindings.trans hst.bindings, htu.plan.trans hst.plan⟩

theorem fit (h : Kept number s t) (hfit : Fit number s) : Fit number t :=
  h.toSteady.fit hfit (hfit.sound.congr h.plan h.bindings h.style)

/-- The number of shapes is a matter of the plan. -/
theorem length_shapes (h : Kept number s t) :
    t.document.shapes.length = s.document.shapes.length := by
  rw [← Document.length_plan, ← Document.length_plan, h.plan]

/-! ### Small steps -/

theorem note (s : Session) {step : Step} (h : ∀ stack, step ≠ .running number stack) :
    Kept number s (s.note step) :=
  ⟨⟨rfl, rfl, rfl, rfl, rfl, id, rfl, [step], rfl, by
    intro other hother stack hstack
    rw [List.mem_singleton] at hother
    exact absurd (hother ▸ hstack) (h stack)⟩, rfl, rfl⟩

theorem log (s : Session) (lines : Array String) : Kept number s { s with log := lines } :=
  ⟨⟨rfl, rfl, rfl, rfl, rfl, id, rfl, [], rfl, by simp⟩, rfl, rfl⟩

theorem clock (s : Session) (now : Float) : Kept number s { s with clock := now } :=
  ⟨⟨rfl, rfl, rfl, rfl, rfl, id, rfl, [], rfl, by simp⟩, rfl, rfl⟩

theorem record (s : Session) (notice : Notice) : Kept number s (s.recordNotice notice) := by
  unfold recordNotice Session.record
  split <;> exact ⟨⟨rfl, rfl, rfl, rfl, rfl, id, rfl, [], rfl, by simp⟩, rfl, rfl⟩

theorem withDocument (s : Session) {document : Document}
    (hstyle : document.style = s.document.style)
    (hbindings : document.bindings = s.document.bindings) (hplan : document.plan = s.document.plan)
    : Kept number s (s.withDocument document) :=
  ⟨.withDocument s hstyle, hbindings, hplan⟩

/-- A change of an engine that concerns neither its options nor its guard nor its triggers, and
does not take its index away. -/
theorem modifyEngine (hpresent : number < s.engines.length) {change : Engine → Engine}
    (hoptions : (change (s.engineAt number)).options = (s.engineAt number).options)
    (hguard : (change (s.engineAt number)).guard = (s.engineAt number).guard)
    (htriggers : (change (s.engineAt number)).triggers = (s.engineAt number).triggers)
    (hindexed : (s.engineAt number).index?.isSome → (change (s.engineAt number)).index?.isSome) :
    Kept number s (s.modifyEngine number change) := by
  have hengine := engineAt_modifyEngine hpresent change
  exact ⟨⟨rfl, length_modifyEngine s number change, by rw [hengine, hoptions],
    by rw [hengine, hguard], by rw [hengine, htriggers], by rw [hengine]; exact hindexed, rfl,
    [], rfl, by simp⟩, rfl, rfl⟩

theorem modifyPropagator (hpresent : number < s.engines.length) (trigger : Trigger)
    {change : Propagator → Propagator}
    (h : ∀ propagator, (change propagator).trigger = propagator.trigger) :
    Kept number s (s.modifyPropagator number trigger change) :=
  modifyEngine hpresent rfl rfl (modify_triggers _ trigger h) id

theorem withIndex (hpresent : number < s.engines.length) (index : GridIndex Float) :
    Kept number s (s.withIndex number index) :=
  modifyEngine hpresent rfl rfl rfl fun _ => rfl

/-- A patch keeps everything but the shape that it names. -/
theorem update {patch : Patch} {shape : Shape} {document : Document}
    (h : s.document.update patch = .ok (shape, document)) :
    Kept number s (s.withDocument document) := by
  have hplan := Document.plan_update h
  obtain ⟨old, _, _, rfl⟩ := Document.update_ok h
  exact withDocument s rfl rfl hplan

theorem mark (s : Session) (id : String) (marker : Marker) :
    Kept number s (s.withDocument (s.document.mark id marker)) :=
  withDocument s rfl rfl rfl

end Kept

/-! ## Runs -/

/-- A session with another guard of an engine. -/
def guardedBy (s : Session) (number : Nat) (guard : Guard) : Session :=
  s.modifyEngine number fun engine => { engine with guard := guard }

theorem withGuard_eq (s : Session) (number : Nat) (guard : Guard) :
    s.withGuard number guard = (s.guardedBy number guard).note (.running number guard.stack) := rfl

theorem engineAt_guardedBy (h : number < s.engines.length) (guard : Guard) :
    (s.guardedBy number guard).engineAt number = { s.engineAt number with guard := guard } :=
  engineAt_modifyEngine h _

theorem engineAt_withGuard (h : number < s.engines.length) (guard : Guard) :
    (s.withGuard number guard).engineAt number = { s.engineAt number with guard := guard } :=
  engineAt_modifyEngine h _

namespace Kept

/-- A run that begins is kept under its guard. -/
theorem enter (h : Kept number s t) (hfit : Fit number s) {guard : Guard} (hguard : guard.Sound)
    (hlimit : guard.limit = (s.engineAt number).guard.limit) :
    Kept number (s.guardedBy number guard) (t.withGuard number guard) := by
  have hs := engineAt_guardedBy hfit.present guard
  have ht := engineAt_withGuard (h.fit hfit).present guard
  obtain ⟨steps, hsteps, hfits⟩ := h.trail
  -- The guard of the run is the one thing that both sessions are given.
  refine ⟨⟨h.subscribers, ?_, by rw [hs, ht]; exact h.options, by rw [hs, ht],
    by rw [hs, ht]; exact h.triggers, by rw [hs, ht]; exact h.indexed, h.style,
      .running number guard.stack :: steps, ?_, ?_⟩,
    h.bindings, h.plan⟩
  · simpa [withGuard_eq, guardedBy, Session.note] using h.engines
  · simp [withGuard_eq, guardedBy, Session.note, Session.modifyEngine, hsteps]
  · rw [hs]
    intro step hstep stack hstack
    rcases List.mem_cons.mp hstep with rfl | hold
    · cases hstack
      exact hguard
    · exact hlimit ▸ hfits step hold stack hstack

/-- What is kept under the guard of a run is kept when the run has come back. -/
theorem leave (hfit : Fit number s) {guard : Guard}
    (hlimit : guard.limit = (s.engineAt number).guard.limit)
    (h : Kept number (s.guardedBy number guard) t) :
    Kept number s (t.withGuard number (s.engineAt number).guard) := by
  have hs := engineAt_guardedBy hfit.present guard
  have hengines : t.engines.length = s.engines.length := by simpa [guardedBy] using h.engines
  have ht := engineAt_withGuard (hengines ▸ hfit.present) (s.engineAt number).guard
  obtain ⟨steps, hsteps, hfits⟩ := h.trail
  rw [hs] at hfits
  refine ⟨⟨h.subscribers, ?_, by rw [ht, h.options, hs], by rw [ht],
    by rw [ht]; exact h.triggers.trans (by rw [hs]; rfl),
    by rw [ht]; exact fun hsome => h.indexed (by rw [hs]; exact hsome), h.style,
    .running number (s.engineAt number).guard.stack :: steps, ?_, ?_⟩, h.bindings, h.plan⟩
  · simpa [withGuard_eq, guardedBy, Session.note] using hengines
  · simp [withGuard_eq, guardedBy, Session.note, Session.modifyEngine, hsteps]
  · intro step hstep stack hstack
    rcases List.mem_cons.mp hstep with rfl | hold
    · cases hstack
      exact hfit.guarded
    · exact hlimit ▸ hfits step hold stack hstack

end Kept

theorem Fit.guardedBy (h : Fit number s) {guard : Guard} (hguard : guard.Sound) :
    Fit number (s.guardedBy number guard) where
  present := by simpa [Session.guardedBy] using h.present
  heard := h.heard
  sound := h.sound
  guarded := by rw [engineAt_guardedBy h.present]; exact hguard

end Canvasflow.Session
