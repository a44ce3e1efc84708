import Canvasflow.Proofs.Session.Start
import Mathlib.Algebra.Order.BigOperators.Group.List
import Mathlib.Algebra.Order.Group.Nat

/-!
# Cascades end

Whatever a host does to a page on which an engine was started, the cascade that it sets off ends,
and runs nest as the guard of the engine wants it. The depth to which `Session.perform` follows
notices bounds the rank of every session on the way (`rank_lt_room`), so no greater depth would
change anything: `perform_hosted` says so for one command, and `Started.after_hosted` for a session
that commands have led to. `Started.cascades_end` is the main statement.
-/

namespace Canvasflow.Session

open Canvasflow.Connector Canvasflow.Geometry Canvasflow.Page Canvasflow.Propagation

variable {number limit size : Nat} {s t : Session}

/-! ## The depth that suffices -/

/-- A session in which no more runs nest than the given number, on a page with no more shapes than
the other. -/
structure Sized (number limit size : Nat) (s : Session) : Prop where
  limited : (s.engineAt number).guard.limit.toNat ≤ limit
  counted : s.document.shapes.length ≤ size

/-- The size of a session bounds its rank. -/
theorem Sized.rank_lt (h : Sized number limit size s) :
    s.rank number < (limit + 1) * (size + 1) := by
  have hvacancy : s.vacancy number + 1 ≤ limit + 1 := by
    have hlimit := h.limited
    unfold vacancy
    omega
  calc s.rank number
    _ ≤ s.ceiling number := rank_le_ceiling number s
    _ < (s.vacancy number + 1) * (s.document.shapes.length + 1) := by
      rw [ceiling, Nat.add_mul, Nat.one_mul]
      omega
    _ ≤ (limit + 1) * (size + 1) := Nat.mul_le_mul hvacancy (Nat.succ_le_succ h.counted)

theorem Sized.kept (h : Sized number limit size s) (hkept : Kept number s t) :
    Sized number limit size t :=
  ⟨by rw [hkept.guard]; exact h.limited, by rw [hkept.length_shapes]; exact h.counted⟩

/-- The runs that the guard of an engine lets be nested are among those of all engines. -/
theorem le_runLimit {engine : Engine} (hengine : engine ∈ s.engines) :
    engine.guard.limit.toNat ≤ s.runLimit := by
  unfold runLimit
  generalize s.engines = engines at hengine ⊢
  induction engines with
  | nil => cases hengine
  | cons first rest ih =>
    rw [List.foldr_cons]
    rcases List.mem_cons.mp hengine with rfl | hlater
    · exact Nat.le_add_right _ _
    · exact Nat.le_add_left_of_le (ih hlater)

/-- The depth to which a command is followed exceeds every rank that it can lead to. -/
theorem rank_lt_room (hfit : Fit number s) {command : Command} (hhost : command.isHost = true) :
    ((s.engineAt number).guard.limit.toNat + 1) * (s.document.shapes.length + 2) ≤
      s.room command := by
  have hmem : s.engineAt number ∈ s.engines := by
    simp [engineAt, List.getD_eq_getElem?_getD, List.getElem?_eq_getElem hfit.present]
  have hlimit := le_runLimit hmem
  have hweight (limit : Nat) : weight limit command = 1 := by
    cases command <;> first | rfl | cases hhost
  exact Nat.mul_le_mul (by omega) (by rw [hweight]; omega)

section Depths

variable {span width depth other : Nat}

/-- A notice is handed out alike to two depths that exceed the rank. -/
theorem told_sized (hdepth : (limit + 1) * (size + 1) ≤ depth)
    (hother : (limit + 1) * (size + 1) ≤ other) (notice : Notice) (hfit : Fit number s)
    (hsized : Sized number limit size s) :
    Told number (Sized number limit size) (notifyWithin span depth) (notifyWithin width other)
      notice s := by
  have hrank := hsized.rank_lt
  have hkept := notifyWithin_kept span depth notice hfit
  exact ⟨notifyWithin_eq span width hfit (Nat.lt_of_lt_of_le hrank hdepth)
    (Nat.lt_of_lt_of_le hrank hother) notice, hkept, hsized.kept hkept⟩

/-- What hosts do is the same to two depths that exceed every rank that it can lead to. -/
theorem hosting_sized (command : Command) (hdepth : (limit + 1) * (size + 2) ≤ depth)
    (hother : (limit + 1) * (size + 2) ≤ other) :
    Hosting number (notifyWithin span depth) (notifyWithin width other) (Sized number limit size)
      (Sized number limit (size + 1)) command := by
  have hmono {s : Session} (h : Sized number limit size s) : Sized number limit (size + 1) s :=
    ⟨h.limited, Nat.le_succ_of_le h.counted⟩
  have hdepth' : (limit + 1) * (size + 1 + 1) ≤ depth := hdepth
  have hother' : (limit + 1) * (size + 1 + 1) ≤ other := hother
  have htold {s : Session} {document : Document} (notice : Notice) (hfit : Fit number s)
      (hsized : Sized number limit (size + 1) s) (hfitNext : Fit number (s.withDocument document))
      (hlength : document.shapes.length ≤ s.document.shapes.length) :
      Told number (Sized number limit (size + 1)) (notifyWithin span depth)
        (notifyWithin width other) notice (s.withDocument document) :=
    told_sized hdepth' hother' notice hfitNext
      ⟨hsized.limited, Nat.le_trans hlength hsized.counted⟩
  constructor
  case creates =>
    refine ⟨fun _ hsized => hmono hsized,
      fun _ _ hsized => hmono ⟨hsized.limited, hsized.counted⟩, ?_⟩
    intro s new shape document hfit hsized hcreate
    have hsound := hfit.sound.create hcreate
    obtain ⟨_, _, issued, rfl⟩ := Document.create_ok hcreate
    refine told_sized hdepth' hother' _ (hfit.withDocument hsound rfl) ⟨hsized.limited, ?_⟩
    have hcounted := hsized.counted
    simp only [withDocument, List.length_append, List.length_singleton]
    omega
  case binds =>
    refine fun _ => ⟨fun _ _ hsized => ⟨hsized.limited, hsized.counted⟩, ?_⟩
    intro s connector target id terminal binding document hfit hsized hbind
    have hsound := hfit.sound.bind hbind
    obtain ⟨_, _, _, _, _, _, issued, rfl⟩ := Document.bind_ok hbind
    exact htold _ hfit hsized (hfit.withDocument hsound rfl) (Nat.le_refl _)
  case removes =>
    intro _
    constructor
    · intro s id binding document hfit hsized hunbind
      have hsound := hfit.sound.unbind hunbind
      obtain ⟨_, rfl⟩ := Document.unbind_ok hunbind
      exact htold _ hfit hsized (hfit.withDocument hsound rfl) (Nat.le_refl _)
    · intro s id shape now hfit hsized _ _ hchildren hbindings
      exact htold _ hfit hsized (hfit.withDocument (hfit.sound.remove hchildren hbindings) rfl)
        (Document.fewer_remove _ id).length_le
  case updates =>
    intro s patch shape document hfit hsized hupdate
    have hkept : Kept number s (s.withDocument document) := .update hupdate
    exact htold _ hfit hsized (hkept.fit hfit) (Nat.le_of_eq hkept.length_shapes)
  case marked => exact fun _ _ _ hsized => ⟨hsized.limited, hsized.counted⟩
  case passes =>
    refine ⟨fun _ _ hsized => ⟨hsized.limited, hsized.counted⟩, ?_, ?_⟩
    · intro s event pointer hfit hsized
      exact htold _ hfit hsized (hfit.withDocument (hfit.sound.congr rfl rfl rfl) rfl)
        (Nat.le_refl _)
    · intro s now hfit hsized
      have hclock : Kept number s { s with clock := now } := .clock s now
      exact told_sized hdepth' hother' _ (hclock.fit hfit) (hsized.kept hclock)

end Depths

/-! ## Commands of a host -/

/-- A command of a host is carried out the same to every depth that suffices, and leaves a fit
session in which as much stays as a host lets stay. -/
theorem perform_hosted (hfit : Fit number s) {command : Command} (hhost : command.isHost = true) :
    (∀ depth, s.room command ≤ depth →
      (carryOut (notifyWithin depth depth) depth command).run s = s.perform command) ∧
        Fit number (s.perform command).2 ∧ Steady number s (s.perform command).2 := by
  have hroom := rank_lt_room hfit hhost
  generalize hlimit : (s.engineAt number).guard.limit.toNat = limit at hroom
  generalize hsize : s.document.shapes.length = size at hroom
  have hsized : Sized number limit size s := ⟨Nat.le_of_eq hlimit, Nat.le_of_eq hsize⟩
  have hcount {depth : Nat} (hdepth : s.room command ≤ depth) {t : Session}
      (ht : Sized number limit (size + 1) t) : t.document.shapes.length < depth := by
    have hcounted := ht.counted
    have hproduct : size + 2 ≤ (limit + 1) * (size + 2) := Nat.le_mul_of_pos_left _ (by omega)
    omega
  have htwin {depth : Nat} (hdepth : s.room command ≤ depth) :
      HostTwin number (Sized number limit size) (Sized number limit (size + 1))
        (carryOut (notifyWithin (s.room command) (s.room command)) (s.room command) command)
        (carryOut (notifyWithin depth depth) depth command) :=
    carryOut_hosted (hosting_sized command hroom (Nat.le_trans hroom hdepth))
      (hcount (Nat.le_refl _)) (hcount hdepth) hhost
  have hhosted := (htwin (Nat.le_refl _) s hfit hsized).2
  exact ⟨fun depth hdepth => (htwin hdepth s hfit hsized).1, hhosted.fit, hhosted.steady⟩

/-- Commands of a host leave a fit session in which as much stays as a host lets stay. -/
theorem after_hosted (hfit : Fit number s) {commands : List Command}
    (hhost : ∀ command ∈ commands, command.isHost = true) :
    Fit number (s.after commands) ∧ Steady number s (s.after commands) := by
  induction commands generalizing s with
  | nil => exact ⟨hfit, .refl number s⟩
  | cons command rest ih =>
    obtain ⟨_, hfit', hsteady⟩ := perform_hosted hfit (hhost command List.mem_cons_self)
    obtain ⟨hfit'', hsteady'⟩ := ih hfit' fun other hother => hhost other
      (List.mem_cons_of_mem _ hother)
    exact ⟨hfit'', hsteady.trans hsteady'⟩

variable {triggers : List Trigger} {before started : Session}

/-- In a session that commands of a host have led to from the start of an engine, the cascade of
one more command ends: no greater depth than the one to which it is followed changes what it does.
Every connector that runs then stands on the guard once, with no more of them at a time than the
limit; every run, however it ends, leaves the guard as it was; and no connector runs when the
command is done. -/
theorem Started.cascades_end (h : Started number triggers before started) {commands : List Command}
    (hcommands : ∀ command ∈ commands, command.isHost = true) {command : Command}
    (hcommand : command.isHost = true) :
    let session := started.after commands
    let next := (session.perform command).2
    (∀ depth, session.room command ≤ depth →
      (carryOut (notifyWithin depth depth) depth command).run session = session.perform command) ∧
    (∃ steps, next.trail = steps ++ session.trail ∧
      ∀ stack, Step.running number stack ∈ steps → stack.Nodup ∧
        (stack.length : Int) ≤ max 0 (Options.ofSettings before.settings).maxDepth) ∧
    (∀ s : Session, Fit number s → ∀ span depth trigger connector,
      ((propagate (notifyWithin span depth) number trigger connector s).2.engineAt number).guard =
        (s.engineAt number).guard) ∧
    Fit number session ∧ (next.engineAt number).guard.stack = [] := by
  obtain ⟨_, hguard, _⟩ := h.engine_eq
  obtain ⟨hfit, hsteady⟩ := after_hosted h.fit hcommands
  obtain ⟨hdepth, _, hnext⟩ := perform_hosted hfit hcommand
  refine ⟨hdepth, ?_, fun s hs span depth trigger connector =>
    (propagate_kept span depth trigger connector hs).guard, hfit, ?_⟩
  · obtain ⟨steps, hsteps, hfits⟩ := hnext.trail
    refine ⟨steps, hsteps, fun stack hstack => ?_⟩
    obtain ⟨hdistinct, hlimited⟩ := hfits _ hstack stack rfl
    rw [hsteady.guard, hguard] at hlimited
    refine ⟨hdistinct, ?_⟩
    simp only [Guard.idle] at hlimited
    omega
  · rw [hnext.guard, hsteady.guard, hguard]
    rfl

/-- Two shapes whose connectors move each of them to the right of the other one. -/
def ring : List Command :=
  [.create { type := "geo", id := "a" }, .create { type := "geo", id := "b" },
    .connector "a" "b" "() { return {x : from.x + 1}; }" "c",
    .connector "b" "a" "() { return {x : from.x + 1}; }" "d"]

/-- One of the two is moved by hand. -/
def nudge : Command :=
  .update { id := "a", x? := some (.int 5) }

/-- In a ring of connectors one run leads to the other, and the cascade ends. -/
theorem cascades_end_in_a_ring :
    let session := ((blank .defaults).perform (.engine Trigger.all)).2.after ring
    let next := (session.perform nudge).2
    (∀ depth, session.room nudge ≤ depth →
      (carryOut (notifyWithin depth depth) depth nudge).run session = session.perform nudge) ∧
    Step.running 0 ["c", "d"] ∈ next.trail ∧ (next.engineAt 0).guard.stack = [] := by
  have hstarted : Started 0 Trigger.all (blank .defaults)
      ((blank .defaults).perform (.engine Trigger.all)).2 :=
    started_of_isOk rfl rfl (.empty _) (by decide +kernel)
  have hring : ∀ command ∈ ring, command.isHost = true := by decide
  have hnudge : nudge.isHost = true := rfl
  have hend := hstarted.cascades_end hring hnudge
  exact ⟨hend.1, by decide +kernel, hend.2.2.2.2⟩

end Canvasflow.Session
