import Canvasflow.Proofs.Session.Invariants

/-!
# The programs of a session

A propagator keeps the programs of its connectors, and nothing tells it when the text of one of them
changes. `Caching` says that every propagator of a session keeps a sound cache under the budget of
the settings. No move of a session breaks that, edits of the page included, so whatever commands
have been carried out, a propagator runs what the present text of a connector compiles to.
-/

namespace Canvasflow.Session

open Canvasflow.Connector Canvasflow.Geometry Canvasflow.Page Canvasflow.Program
open Canvasflow.Propagation

/-- A session with the given settings in which every propagator keeps a sound cache. -/
structure Caching (settings : Settings) (s : Session) : Prop where
  settings_eq : s.settings = settings
  sound : ∀ (number : Nat), ∀ propagator ∈ (s.engineAt number).propagators,
    propagator.cache.Sound propagator.trigger (Options.ofSettings settings).maxSteps

variable {settings : Settings} {s t : Session}

/-- The engines of a session with one more. -/
theorem engineAt_withEngine_cases (s : Session) (engine : Engine) (number : Nat) :
    (s.withEngine engine).engineAt number = s.engineAt number ∨
      (s.withEngine engine).engineAt number = engine := by
  rcases Nat.lt_trichotomy number s.engines.length with hlt | rfl | hgt
  · exact .inl (by simp [engineAt, withEngine, List.getElem?_append_left hlt])
  · exact .inr (engineAt_withEngine s engine)
  · have hnone : s.engines[number]? = none := List.getElem?_eq_none (Nat.le_of_lt hgt)
    have hnone' : (s.engines ++ [engine])[number]? = none :=
      List.getElem?_eq_none (by rw [List.length_append]; exact hgt)
    exact .inl (by simp [engineAt, withEngine, hnone, hnone'])

/-- The propagators of a session in which an engine was changed. -/
theorem mem_propagators_modifyEngine {number other : Nat} {change : Engine → Engine}
    {propagator : Propagator}
    (h : propagator ∈ ((s.modifyEngine number change).engineAt other).propagators) :
    propagator ∈ (s.engineAt other).propagators ∨
      propagator ∈ (change (s.engineAt number)).propagators := by
  by_cases hpresent : number < s.engines.length
  · by_cases hother : other = number
    · subst hother
      rw [engineAt_modifyEngine hpresent] at h
      exact .inr h
    · rw [engineAt_modifyEngine_of_ne (Ne.symm hother)] at h
      exact .inl h
  · rw [modifyEngine_of_absent (Nat.le_of_not_lt hpresent)] at h
    exact .inl h

theorem caching_new (settings : Settings) (document : Document) :
    Caching settings (new settings document) :=
  ⟨rfl, fun _ _ h => nomatch h⟩

theorem Caching.move (h : Caching settings s) (hmove : Move s t) : Caching settings t := by
  cases hmove with
  | noted | recorded | logged | timed | edited | subscribed | attended | silenced =>
    exact ⟨h.settings_eq, h.sound⟩
  | added index? triggers =>
    refine ⟨h.settings_eq, fun number propagator hmem => ?_⟩
    rcases engineAt_withEngine_cases s (.idle (.ofSettings s.settings) index? triggers) number with
      hold | hnew
    · exact h.sound number propagator (hold ▸ hmem)
    · rw [hnew, h.settings_eq] at hmem
      obtain ⟨trigger, _, rfl⟩ := List.mem_map.mp hmem
      exact ProgramCache.empty_sound trigger _
  | adjusted number hoptions hpropagators =>
    refine ⟨h.settings_eq, fun other propagator hmem => ?_⟩
    rcases mem_propagators_modifyEngine hmem with hold | hnew
    · exact h.sound other propagator hold
    · exact h.sound number propagator (hpropagators _ ▸ hnew)
  | tended htending =>
    refine ⟨h.settings_eq, fun other propagator hmem => ?_⟩
    rcases mem_propagators_modifyEngine hmem with hold | hnew
    · exact h.sound other propagator hold
    · obtain ⟨old, hold, rfl⟩ := List.mem_map.mp hnew
      split
      · rename_i htrigger
        obtain ⟨hsame, known, hknown, hof, hcache⟩ := htending old hold htrigger
        rw [hsame, ← hof]
        exact (h.sound _ known hknown).tended hcache
      · exact h.sound _ old hold
  | stopped number =>
    refine ⟨h.settings_eq, fun other propagator hmem => ?_⟩
    rcases mem_propagators_modifyEngine hmem with hold | hnew
    · exact h.sound other propagator hold
    · obtain ⟨old, hold, rfl⟩ := List.mem_map.mp hnew
      exact (h.sound number old hold).clear

theorem Caching.moves (h : Caching settings s) (hmoves : Moves s t) : Caching settings t :=
  hmoves.keeps (fun h hmove => h.move hmove) h

/-- The program of a connector that is compiled from its present text. -/
theorem Caching.get_eq (h : Caching settings s) {number : Nat} {trigger : Trigger}
    {propagator : Propagator}
    (hpropagator : (s.engineAt number).propagator? trigger = some propagator) (connector : String)
    (text? : Option String) :
    (propagator.cache.get connector text?).1 =
      text?.bind (programOf trigger (Options.ofSettings settings).maxSteps) := by
  have hmem := List.mem_of_find?_eq_some hpropagator
  have htrigger : propagator.trigger = trigger := by simpa using List.find?_some hpropagator
  exact htrigger ▸ (h.sound number propagator hmem).get_eq connector text?

/-- Whatever has been done in a session, a propagator answers with what the present text of a
connector compiles to: asked through its cache or by a run of the connector, between two commands or
in the middle of one, or by a command. A connector that is gone has no program. -/
theorem cache_transparent (settings : Settings) (document : Document) (commands : List Command)
    (trigger : Trigger) (connector : String) :
    let anew (s : Session) := (s.textOf? connector).bind
      (programOf trigger (Options.ofSettings settings).maxSteps)
    let session := (new settings document).after commands
    (∀ s, Moves session s → ∀ number propagator,
      (s.engineAt number).propagator? trigger = some propagator →
        (propagator.cache.get connector (s.textOf? connector)).1 = anew s ∧
          ((lookUpProgram number trigger connector).run s).1 = .ok (anew s)) ∧
    ((session.holder? trigger).isSome →
      (session.perform (.cache trigger (.get connector))).1 = .ok (.program (anew session))) := by
  intro anew session
  have hcaching : Caching settings session :=
    (caching_new settings document).moves (after_moves _ commands)
  have hget {s : Session} (hs : Caching settings s) {number : Nat} {propagator : Propagator}
      (hpropagator : (s.engineAt number).propagator? trigger = some propagator) :
      (propagator.cache.get connector (s.textOf? connector)).1 = anew s :=
    hs.get_eq hpropagator connector _
  constructor
  · intro s hmoves number propagator hpropagator
    have hanew := hget (hcaching.moves hmoves) hpropagator
    refine ⟨hanew, ?_⟩
    simp only [lookUpProgram, Act.run_bind, Act.run_get, hpropagator, Act.run_change, Act.run_pure]
    rw [hanew]
  · intro hholder
    obtain ⟨number, hnumber⟩ := Option.isSome_iff_exists.mp hholder
    obtain ⟨propagator, hpropagator⟩ : ∃ propagator,
        (session.engineAt number).propagator? trigger = some propagator :=
      Option.isSome_iff_exists.mp (by simpa using List.find?_some hnumber)
    simp only [perform, carryOut, Act.run_bind, Act.run_get, hnumber, useCache, hpropagator,
      Act.run_change, Act.run_pure]
    rw [hget hcaching hpropagator]

/-- A connector whose program is compiled, then edited, and whose cache is not told. -/
def reworded : List Command :=
  [.standalone .change,
    .create { type := "arrow", id := "c", props := [("text", .str "{ x : 1 }")] },
    .cache .change (.get "c"),
    .update { id := "c", props? := some (.record [("text", .str "{ x : 2 }")]) }]

theorem reworded_is_compiled_anew :
    let session := (new .defaults (.empty (styleOf .defaults))).after reworded
    (session.holder? .change).isSome ∧
      ∃ program, (session.perform (.cache .change (.get "c"))).1 = .ok (.program (some program)) ∧
        program.source = "{ x : 2 }" := by
  intro session
  have hholder : (session.holder? .change).isSome := by decide +kernel
  obtain ⟨_, hreply⟩ :=
    cache_transparent .defaults (.empty (styleOf .defaults)) reworded .change "c"
  have hanew : ((session.textOf? "c").bind (programOf .change
      (Options.ofSettings .defaults).maxSteps)).map Compiled.source = some "{ x : 2 }" := by
    decide +kernel
  obtain ⟨program, hprogram, hsource⟩ := Option.map_eq_some_iff.mp hanew
  refine ⟨hholder, program, ?_, hsource⟩
  rw [hreply hholder]
  exact congrArg (fun found => Except.ok (Reply.program found)) hprogram

end Canvasflow.Session
