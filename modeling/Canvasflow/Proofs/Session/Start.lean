import Canvasflow.Proofs.Session.Host

/-!
# Starting an engine

What a session is like in which an engine was built and started while nobody was told of anything.
The start goes through three stages: the page is indexed, every connector is looked at, and only
then is the engine told of changes. `Started.stages` takes a start apart, and `Started.fit` and
`Attended` say what everything that follows can rely on: the session is fit, no connector runs, and
the engine is the one that is told.
-/

namespace Canvasflow.Session

open Canvasflow.Connector Canvasflow.Geometry Canvasflow.Page Canvasflow.Propagation

/-- A session in which the engine of a number has been built and started on a sound page while
nobody was told of anything. -/
structure Started (number : Nat) (triggers : List Trigger) (before started : Session) : Prop where
  latest : before.engines.length = number
  unheard : before.subscribers = []
  sound : before.document.Sound
  ran : ∃ reply, before.perform (.engine triggers) = (.ok reply, started)

/-- An engine whose start succeeds is started. -/
theorem started_of_isOk {number : Nat} {triggers : List Trigger} {before : Session}
    (hlatest : before.engines.length = number) (hunheard : before.subscribers = [])
    (hsound : before.document.Sound) (hok : (before.perform (.engine triggers)).1.isOk = true) :
    Started number triggers before (before.perform (.engine triggers)).2 := by
  refine ⟨hlatest, hunheard, hsound, ?_⟩
  rcases hran : before.perform (.engine triggers) with ⟨fault | reply, started⟩
  · rw [hran] at hok
    cases hok
  · exact ⟨reply, rfl⟩

/-- A session in which one engine is told of everything, and no one else of anything. -/
def Attended (number : Nat) (s : Session) : Prop :=
  ∀ topic, s.subscribersOf topic = [.engine number]

theorem Attended.steady {number : Nat} {s t : Session} (h : Attended number s)
    (hsteady : Steady number s t) : Attended number t := by
  intro topic
  rw [← h topic, subscribersOf, subscribersOf, hsteady.subscribers]

theorem index_ok {cellSize : Data} {index : GridIndex Float}
    (h : Engine.index cellSize = .ok index) :
    ∃ size, index = .empty size := by
  have hnumber {size : Float} {fault : SetupFault}
      (hsize : (if size ≤ 0.0 then .error fault else .ok (.empty size)) = Except.ok index) :
      index = .empty size := by
    split at hsize
    · cases hsize
    · exact (Except.ok.inj hsize).symm
  cases cellSize with
  | num number => exact ⟨_, hnumber h⟩
  | bool value => exact ⟨_, hnumber h⟩
  | null | str | list | record => cases h

/-- What an engine is like that was built. -/
theorem build_ok {settings : Settings} {triggers : List Trigger} {engine : Engine}
    (h : Engine.build settings triggers = .ok engine) :
    ∃ size, engine = Engine.idle (.ofSettings settings) (some (.empty size)) triggers := by
  simp only [Engine.build, bind_eq_ok_iff] at h
  obtain ⟨index, hindex, h⟩ := h
  obtain ⟨size, rfl⟩ := index_ok hindex
  refine ⟨size, ?_⟩
  split at h
  · cases h
  · split at h
    · cases h
    · cases h
      rfl

theorem triggers_idle (options : Options) (index? : Option (GridIndex Float))
    (triggers : List Trigger) : (Engine.idle options index? triggers).triggers = triggers := by
  simp [Engine.triggers, Engine.idle, Propagator.idle, Function.comp_def]

theorem engineAt_withEngine (s : Session) (engine : Engine) :
    (s.withEngine engine).engineAt s.engines.length = engine := by
  simp [engineAt, withEngine]

section Classification

variable {number bound : Nat} {Good : Session → Prop} {Due : Shape → Session → Prop}
  {first second : Notify}

theorem classifyAll_twin (hagree : Agree number Good Due first second bound)
    (hupkeep : Upkeep number Good Due) (shapes : List Shape)
    (hsort : ∀ trigger, ∀ shape ∈ shapes, Sorting number Good Good trigger shape) :
    Twin number bound Good Good (classifyAll first number shapes)
      (classifyAll second number shapes) := by
  intro s
  refine eachPropagator_twin (fun trigger => Twin.foldl _ fun shape hshape => ?_) s
  exact connectorChanged_twin hagree hupkeep (hsort trigger shape (List.mem_filter.mp hshape).1)

end Classification

/-- The stages of a start. -/
structure Stages (number : Nat) (triggers : List Trigger) (before started : Session)
    (engine : Engine) (indexed : Session)
    (depth : Nat) : Prop where
  built : ∃ size, engine =
    Engine.idle (.ofSettings before.settings) (some (.empty size)) triggers
  indexing : (before.document.pageShapes.forM fun shape =>
    indexShape number shape.id).run (before.withEngine engine) = (.ok (), indexed)
  deep : ((Options.ofSettings before.settings).maxDepth.toNat + 1) *
    (before.document.shapes.length + 1) ≤ depth
  classification : started = attend number
    (classifyAll (notifyWithin depth depth) number before.document.pageShapes indexed)

theorem Started.stages {number : Nat} {triggers : List Trigger} {before started : Session}
    (h : Started number triggers before started) :
    ∃ engine indexed depth, Stages number triggers before started engine indexed depth := by
  obtain ⟨rfl, _, _, reply, hran⟩ := h
  simp only [perform, carryOut, buildEngine, Act.run_bind, Act.run_get] at hran
  have hdeep : ((Options.ofSettings before.settings).maxDepth.toNat + 1) *
      (before.document.shapes.length + 1) ≤ before.room (.engine triggers) := by
    refine Nat.mul_le_mul ?_ (by omega)
    simp only [weight, Options.ofSettings]
    omega
  generalize before.room (.engine triggers) = depth at hran hdeep
  cases hbuild : Engine.build before.settings triggers with
  | error fault => simp [hbuild] at hran
  | ok engine =>
    have hidle : engine.running = false := by
      obtain ⟨size, rfl⟩ := build_ok hbuild
      rfl
    have hengine := engineAt_withEngine before engine
    simp only [hbuild, Act.run_bind, Act.run_change, startEngine, Act.run_get, hengine, hidle,
      Bool.false_eq_true, if_false] at hran
    rcases hindex : (before.document.pageShapes.forM fun shape =>
        indexShape before.engines.length shape.id).run
          (before.withEngine engine) with ⟨fault | _, indexed⟩
    · have hsame : (before.withEngine engine).document = before.document := rfl
      simp only [hsame, hindex] at hran
      cases hran
    · have hsame : (before.withEngine engine).document = before.document := rfl
      simp only [hsame, hindex] at hran
      cases hran
      exact ⟨engine, indexed, depth, build_ok hbuild, hindex, hdeep, rfl⟩

/-! ## What a start leaves -/

section Attention

variable {number : Nat} {s : Session}

theorem engineAt_attend (hpresent : number < s.engines.length) :
    (attend number s).engineAt number = { s.engineAt number with running := true } :=
  engineAt_modifyEngine hpresent fun engine => { engine with running := true }

theorem fit_attend (hfit : Fit number s) : Fit number (attend number s) where
  present := by simpa [attend] using hfit.present
  heard := by
    intro entry hentry
    rcases List.mem_append.mp hentry with hold | hnew
    · exact hfit.heard entry hold
    · obtain ⟨topic, _, rfl⟩ := List.mem_map.mp hnew
      exact ⟨topic, rfl⟩
  sound := hfit.sound
  guarded := by rw [engineAt_attend hfit.present]; exact hfit.guarded

theorem attended_attend (hunheard : s.subscribers = []) : Attended number (attend number s) := by
  intro topic
  have hsubscribers : (attend number s).subscribers =
      Topic.all.map fun topic => (topic, .engine number) := by
    simp [attend, modifyEngine, hunheard]
  rw [subscribersOf, hsubscribers]
  cases topic <;> rfl

end Attention

theorem forM_indexShape_reindexed (number : Nat) {s : Session} (hsound : s.document.Sound)
    (shapes : List Shape) :
    Reindexed number s ((shapes.forM fun shape => indexShape number shape.id).run s).2 := by
  induction shapes generalizing s with
  | nil => exact .refl number s
  | cons shape rest ih =>
    have hone := indexShape_reindexed hsound number shape.id
    rw [Act.run_forM_cons]
    rcases hrun : (indexShape number shape.id).run s with ⟨fault | _, t⟩ <;> rw [hrun] at hone
    · exact hone
    · exact hone.trans (ih (hone.document_eq ▸ hsound))

variable {number depth : Nat} {triggers : List Trigger} {before started indexed : Session}
  {engine : Engine}

/-- The engine that is started is the latest one. -/
theorem Started.engineAt_begun (h : Started number triggers before started) (engine : Engine) :
    (before.withEngine engine).engineAt number = engine := by
  rw [← h.latest]
  exact engineAt_withEngine before engine

namespace Stages

theorem fit_begun (h : Stages number triggers before started engine indexed depth)
    (hstarted : Started number triggers before started) :
    Fit number (before.withEngine engine) where
  present := by simp [withEngine, ← hstarted.latest]
  heard := by simp [withEngine, hstarted.unheard]
  sound := hstarted.sound
  guarded := by
    obtain ⟨size, rfl⟩ := h.built
    rw [hstarted.engineAt_begun]
    exact Guard.idle_sound _

theorem reindexed (h : Stages number triggers before started engine indexed depth)
    (hstarted : Started number triggers before started) :
    Reindexed number (before.withEngine engine) indexed := by
  have hreindexed := forM_indexShape_reindexed number
    (h.fit_begun hstarted).sound before.document.pageShapes
  rwa [h.indexing] at hreindexed

/-- When the page is indexed, the engine has done nothing else yet. -/
theorem engine_indexed (h : Stages number triggers before started engine indexed depth)
    (hstarted : Started number triggers before started) :
    ∃ index?, indexed.engineAt number =
      Engine.idle (.ofSettings before.settings) index? triggers := by
  have hpresent := (h.fit_begun hstarted).present
  obtain ⟨size, rfl⟩ := h.built
  rcases h.reindexed hstarted with rfl | ⟨index, rfl⟩
  · exact ⟨_, hstarted.engineAt_begun _⟩
  · refine ⟨some index, ?_⟩
    rw [withIndex, engineAt_modifyEngine hpresent, hstarted.engineAt_begun]
    rfl

/-- Cascades are followed deep enough while the connectors are looked at. -/
theorem rank_le (h : Stages number triggers before started engine indexed depth)
    (hstarted : Started number triggers before started) : indexed.rank number ≤ depth := by
  have hkept := (h.reindexed hstarted).kept (h.fit_begun hstarted).present
  -- The guard of a new engine is idle, so the ceiling is what the settings and the page give.
  have hle := rank_le_ceiling number indexed
  obtain ⟨size, rfl⟩ := h.built
  rw [hkept.ceiling_eq, ceiling, vacancy, hstarted.engineAt_begun] at hle
  have hlimit : (Engine.idle (.ofSettings before.settings) (some (.empty size)) triggers).guard =
      .idle (Options.ofSettings before.settings).maxDepth := rfl
  have hdeep := h.deep
  rw [hlimit] at hle
  simp only [Guard.idle, List.length_nil, Nat.sub_zero, withEngine] at hle
  rw [Nat.add_mul, Nat.one_mul] at hdeep
  omega

/-- Indexing the page and looking at its connectors keeps the session. -/
theorem kept (h : Stages number triggers before started engine indexed depth)
    (hstarted : Started number triggers before started) :
    Kept number (before.withEngine engine) (classifyAll (notifyWithin depth depth)
      number before.document.pageShapes indexed) := by
  have hfit := h.fit_begun hstarted
  have hindexed := (h.reindexed hstarted).kept hfit.present
  have htwin := classifyAll_twin (agree_any number depth depth
    (indexed.rank number)) (upkeep_any _) before.document.pageShapes
    fun trigger shape _ => sorting_any _ trigger shape
  exact hindexed.trans (htwin indexed (hindexed.fit hfit) trivial (Nat.le_refl _)).2.kept

end Stages

namespace Started

/-- A start leaves a fit session. -/
theorem fit (h : Started number triggers before started) : Fit number started := by
  obtain ⟨engine, indexed, depth, hstages⟩ := h.stages
  rw [hstages.classification]
  exact fit_attend ((hstages.kept h).fit (hstages.fit_begun h))

/-- The engine that was started is the one that is told. -/
theorem attended (h : Started number triggers before started) : Attended number started := by
  obtain ⟨engine, indexed, depth, hstages⟩ := h.stages
  rw [hstages.classification]
  exact attended_attend ((hstages.kept h).subscribers.trans h.unheard)

/-- The engine has what it takes from the settings, no connector runs, and it has an index. -/
theorem engine_eq (h : Started number triggers before started) :
    (started.engineAt number).options = .ofSettings before.settings ∧
      (started.engineAt number).guard = .idle (Options.ofSettings before.settings).maxDepth ∧
      (started.engineAt number).triggers = triggers ∧
      (started.engineAt number).index?.isSome := by
  obtain ⟨engine, indexed, depth, hstages⟩ := h.stages
  have hkept := hstages.kept h
  obtain ⟨size, rfl⟩ := hstages.built
  have hpresent := (hkept.fit (hstages.fit_begun h)).present
  obtain ⟨_, _, hoptions, hguard, htriggers, hindexed, _, _⟩ := hkept.toSteady
  rw [h.engineAt_begun] at hoptions hguard htriggers hindexed
  rw [hstages.classification, engineAt_attend hpresent]
  exact ⟨hoptions, hguard, htriggers.trans (triggers_idle _ _ triggers), hindexed rfl⟩

end Started

end Canvasflow.Session
