import Canvasflow.Proofs.Session.Cascade

/-!
# Reactions

What holds through the reaction of an engine to a notice, put together from what holds through its
runs. A `Twin` is a pair of changes of a session that are the same up to a rank and keep the
session, and twins are closed under sequence, repetition and looking at the session. `Sorting` is
what is asked of a property where a connector is tracked or untracked, and `connectorChanged_twin`,
`afterChange_twin` and `spread_twin` are the reactions to changes of shapes.
-/

namespace Canvasflow.Session

open Canvasflow.Connector Canvasflow.Geometry Canvasflow.Page Canvasflow.Propagation

/-- Two changes of sessions that are the same on fit sessions with a property, up to a rank, and
that keep those sessions and reach another property. -/
def Twin (number bound : Nat) (P Q : Session → Prop) (first second : Session → Session) : Prop :=
  ∀ s : Session, Fit number s → P s → s.rank number ≤ bound →
    second s = first s ∧ Reached number Q (s.rank number) s (first s)

/-- The same for acts, whether they fail or not. -/
def ActTwin {α : Type} (number bound : Nat) (P Q : Session → Prop) (first second : Act α) : Prop :=
  ∀ s : Session, Fit number s → P s → s.rank number ≤ bound →
    second.run s = first.run s ∧ Reached number Q (s.rank number) s (first.run s).2

section Twins

variable {number bound : Nat} {P Q R : Session → Prop}

namespace Twin

theorem rest : Twin number bound P P (fun s => s) (fun s => s) :=
  fun _ _ hP _ => ⟨rfl, .refl hP (Nat.le_refl _)⟩

/-- One after the other. -/
theorem andThen {f g f' g' : Session → Session} (hfirst : Twin number bound P Q f g)
    (hrest : Twin number bound Q R f' g') :
    Twin number bound P R (fun s => f' (f s)) (fun s => g' (g s)) := by
  intro s hfit hP hbound
  obtain ⟨hsame, hreached⟩ := hfirst s hfit hP hbound
  obtain ⟨hsame', hreached'⟩ := hrest (f s) (hreached.kept.fit hfit) hreached.good
    (Nat.le_trans hreached.low hbound)
  exact ⟨by simp only [hsame, hsame'], hreached.kept.trans hreached'.kept, hreached'.good,
    Nat.le_trans hreached'.low hreached.low⟩

/-- Once for everything in a list. -/
theorem foldl {α : Type} {f g : Session → α → Session} (list : List α)
    (h : ∀ a ∈ list, Twin number bound P P (fun s => f s a) (fun s => g s a)) :
    Twin number bound P P (fun s => list.foldl f s) (fun s => list.foldl g s) := by
  induction list with
  | nil => exact rest
  | cons a rest ih =>
    exact andThen (h a List.mem_cons_self) (ih fun b hb => h b (List.mem_cons_of_mem a hb))

/-- One of two, depending on the session. -/
theorem cond (c : Session → Prop) [DecidablePred c] {f g f' g' : Session → Session}
    (hthen : Twin number bound P Q f g) (helse : Twin number bound P Q f' g') :
    Twin number bound P Q (fun s => if c s then f s else f' s)
      (fun s => if c s then g s else g' s) := by
  intro s hfit hP hbound
  by_cases h : c s
  · simpa only [h, if_true] using hthen s hfit hP hbound
  · simpa only [h, if_false] using helse s hfit hP hbound

/-- What may depend on the session that it changes. -/
theorem seen {F G : Session → Session → Session}
    (h : ∀ s, Fit number s → P s → Twin number bound P Q (F s) (G s)) :
    Twin number bound P Q (fun s => F s s) (fun s => G s s) :=
  fun s hfit hP hbound => h s hfit hP s hfit hP hbound

/-- A change that tells nobody. -/
theorem silent {f : Session → Session}
    (h : ∀ s, Fit number s → P s →
      Kept number s (f s) ∧ Q (f s) ∧ (f s).document.shapes = s.document.shapes) :
    Twin number bound P Q f f := by
  intro s hfit hP _
  obtain ⟨hkept, hQ, hshapes⟩ := h s hfit hP
  exact ⟨rfl, (Reached.refl hP (Nat.le_refl _)).step hkept hQ hshapes⟩

/-- Properties may be weakened and strengthened at the ends. -/
theorem mono {P' Q' : Session → Prop} {f g : Session → Session} (h : Twin number bound P Q f g)
    (hpre : ∀ s, Fit number s → P' s → P s) (hpost : ∀ s, Fit number s → Q s → Q' s) :
    Twin number bound P' Q' f g := by
  intro s hfit hP hbound
  obtain ⟨hsame, hreached⟩ := h s hfit (hpre s hfit hP) hbound
  exact ⟨hsame, hreached.kept, hpost _ (hreached.kept.fit hfit) hreached.good, hreached.low⟩

/-- A step of the trail that is not about the guard. -/
theorem note (step : Step) (hstep : ∀ stack, step ≠ .running number stack)
    (h : ∀ s, P s → Q (s.note step)) :
    Twin number bound P Q (fun s => s.note step) (fun s => s.note step) :=
  silent fun s _ hP => ⟨.note s hstep, h s hP, rfl⟩

end Twin

namespace ActTwin

variable {α β : Type}

theorem change {f g : Session → Session} (h : Twin number bound P Q f g) :
    ActTwin number bound P Q (Act.change f) (Act.change g) := by
  intro s hfit hP hbound
  obtain ⟨hsame, hreached⟩ := h s hfit hP hbound
  exact ⟨by rw [Act.run_change, Act.run_change, hsame], hreached⟩

/-- An act that tells nobody. -/
theorem silent {f : Act α}
    (h : ∀ s, Fit number s → P s → Kept number s (f.run s).2 ∧ Q (f.run s).2 ∧
      (f.run s).2.document.shapes = s.document.shapes) :
    ActTwin number bound P Q f f := by
  intro s hfit hP _
  obtain ⟨hkept, hQ, hshapes⟩ := h s hfit hP
  exact ⟨rfl, (Reached.refl hP (Nat.le_refl _)).step hkept hQ hshapes⟩

theorem result (outcome : Except Fault α) :
    ActTwin number bound P P (ExceptT.mk (pure outcome)) (ExceptT.mk (pure outcome)) :=
  fun _ _ hP _ => ⟨rfl, .refl hP (Nat.le_refl _)⟩

/-- One after the other, where the first one may fail with what it was asked to keep. -/
theorem bind {f g : Act α} {f' g' : α → Act β} (hfirst : ActTwin number bound P P f g)
    (hrest : ∀ a, ActTwin number bound P P (f' a) (g' a)) :
    ActTwin number bound P P (f >>= f') (g >>= g') := by
  intro s hfit hP hbound
  obtain ⟨hsame, hreached⟩ := hfirst s hfit hP hbound
  rw [Act.run_bind, Act.run_bind, hsame]
  rcases hrun : f.run s with ⟨fault | a, t⟩
  · rw [hrun] at hreached
    exact ⟨rfl, hreached⟩
  · rw [hrun] at hreached
    obtain ⟨hsame', hreached'⟩ := hrest a t (hreached.kept.fit hfit) hreached.good
      (Nat.le_trans hreached.low hbound)
    exact ⟨hsame', hreached.trans hreached'⟩

theorem get {f g : Session → Act α}
    (h : ∀ s, Fit number s → P s → ActTwin number bound P Q (f s) (g s)) :
    ActTwin number bound P Q (MonadState.get >>= f) (MonadState.get >>= g) := by
  intro s hfit hP hbound
  simp only [Act.run_bind]
  exact h s hfit hP s hfit hP hbound

theorem forM {f g : α → Act Unit} (list : List α)
    (h : ∀ a ∈ list, ActTwin number bound P P (f a) (g a)) :
    ActTwin number bound P P (list.forM f) (list.forM g) := by
  induction list with
  | nil => exact result (.ok ())
  | cons a rest ih =>
    exact bind (h a List.mem_cons_self) fun _ => ih fun b hb => h b (List.mem_cons_of_mem a hb)

end ActTwin

end Twins

/-! ## Tracking -/

/-- What has to be shown where it is decided whether a connector is tracked: the decision is left
out while the connector runs, and a connector is not tracked without an edge and a text of the
trigger, or when its first run failed. -/
structure Sorting (number : Nat) (P Q : Session → Prop) (trigger : Trigger)
    (shape : Shape) : Prop where
  passed : ∀ {s : Session}, Fit number s → P s →
    shape.type ≠ (s.engineAt number).options.connectorType ∨
      (s.engineAt number).guard.isRunning shape.id = true → Q s
  tracked : ∀ {s : Session} {edge : Edge}, Fit number s → P s →
    s.edgeOf (s.engineAt number) shape = some edge → hasTrigger edge.text trigger = true →
      Q (track number trigger edge s)
  untracked : ∀ {s : Session}, Fit number s → P s →
    (validates trigger = true ∨ ∀ edge, s.edgeOf (s.engineAt number) shape = some edge →
      hasTrigger edge.text trigger = false) → Q (untrack number trigger shape.id s)

variable {number bound : Nat} {s t : Session}

/-- Edges are kept: they are a matter of the bindings and of the shape in question. -/
theorem Kept.edgeOf_eq (h : Kept number s t) (shape : Shape) :
    t.edgeOf (t.engineAt number) shape = s.edgeOf (s.engineAt number) shape := by
  simp only [edgeOf, Document.pageBindings, h.options, h.bindings]

theorem Kept.track (hfit : Fit number s) (trigger : Trigger) (edge : Edge) :
    Kept number s (track number trigger edge s) :=
  .modifyPropagator hfit.present trigger fun _ => rfl

theorem Kept.untrack (hfit : Fit number s) (trigger : Trigger) (connector : String) :
    Kept number s (untrack number trigger connector s) :=
  .modifyPropagator hfit.present trigger fun _ => rfl

section Reactions

variable {Good P : Session → Prop} {Due : Shape → Session → Prop} {first second : Notify}

theorem call_twin (hupkeep : Upkeep number Good Due) {step : Step} (hcall : step.IsCall) :
    Twin number bound Good Good (fun s => s.note step) (fun s => s.note step) := by
  refine .note step ?_ fun s hgood => hupkeep.called hgood hcall
  rintro stack rfl
  exact hcall

theorem propagate_twin (hagree : Agree number Good Due first second bound)
    (hupkeep : Upkeep number Good Due) (trigger : Trigger) (connector : String) :
    Twin number bound Good Good (fun s => (propagate first number trigger connector s).2)
      (fun s => (propagate second number trigger connector s).2) := by
  intro s hfit hgood hbound
  obtain ⟨hsame, hreached⟩ := propagate_reached hagree hupkeep hfit hgood hbound trigger connector
  exact ⟨congrArg Prod.snd hsame, hreached⟩

theorem reconsider_twin (hagree : Agree number Good Due first second bound)
    (hupkeep : Upkeep number Good Due) {trigger : Trigger} {shape : Shape}
    (hsort : Sorting number Good P trigger shape) :
    Twin number bound Good P (reconsider first number trigger shape)
      (reconsider second number trigger shape) := by
  intro s hfit hgood hbound
  have hstart : Reached number Good (s.rank number) s s := .refl hgood (Nat.le_refl _)
  -- What is reached from `s` is left by tracking or by untracking the connector.
  have htrack {t : Session} {edge : Edge} (ht : Reached number Good (s.rank number) s t)
      (hedge : s.edgeOf (s.engineAt number) shape = some edge)
      (htrigger : hasTrigger edge.text trigger = true) :
      Reached number P (s.rank number) s (track number trigger edge t) := by
    have hfit' := ht.kept.fit hfit
    exact ht.step (.track hfit' trigger edge)
      (hsort.tracked hfit' ht.good ((ht.kept.edgeOf_eq shape).trans hedge) htrigger) rfl
  have huntrack {t : Session} (ht : Reached number Good (s.rank number) s t)
      (hreason : validates trigger = true ∨ ∀ edge,
        s.edgeOf (s.engineAt number) shape = some edge → hasTrigger edge.text trigger = false) :
      Reached number P (s.rank number) s (untrack number trigger shape.id t) := by
    have hfit' := ht.kept.fit hfit
    exact ht.step (.untrack hfit' trigger shape.id)
      (hsort.untracked hfit' ht.good (by rwa [ht.kept.edgeOf_eq shape])) rfl
  unfold reconsider
  simp only
  split
  · rename_i hskip
    refine ⟨rfl, .refl number s, hsort.passed hfit hgood ?_, Nat.le_refl _⟩
    simpa using hskip
  · cases hedge : s.edgeOf (s.engineAt number) shape with
    | none => exact ⟨rfl, huntrack hstart (.inr (by simp [hedge]))⟩
    | some edge =>
      simp only
      cases htrigger : hasTrigger edge.text trigger with
      | false =>
        simp only [Bool.not_false, if_true, true_and]
        exact huntrack hstart (.inr (by simp [hedge, htrigger]))
      | true =>
        -- The program is looked up first, which is a matter of the cache.
        have hready : Reached number Good (s.rank number) s
            (ensureProgram number trigger shape.id s) :=
          hstart.step (.modifyPropagator hfit.present trigger fun _ => rfl)
            (hupkeep.cached trigger hfit hgood (fun _ => rfl) fun _ => rfl) rfl
        simp only [Bool.not_true, Bool.false_eq_true, if_false]
        split
        · rename_i hvalidates
          have hreason : validates trigger = true := by
            rw [Bool.and_eq_true] at hvalidates
            exact hvalidates.1
          obtain ⟨hsame, hran⟩ := propagate_reached hagree hupkeep
            (hready.kept.fit hfit) hready.good
            (Nat.le_trans hready.low hbound) trigger shape.id
          rw [hsame]
          rcases hrun : propagate first number trigger shape.id
            (ensureProgram number trigger shape.id s) with ⟨succeeded, ran⟩
          rw [hrun] at hran
          cases succeeded with
          | true => exact ⟨rfl, htrack (hready.trans hran) hedge htrigger⟩
          | false => exact ⟨rfl, huntrack (hready.trans hran) (.inl hreason)⟩
        · exact ⟨rfl, htrack hready hedge htrigger⟩

theorem connectorChanged_twin (hagree : Agree number Good Due first second bound)
    (hupkeep : Upkeep number Good Due) {trigger : Trigger} {shape : Shape}
    (hsort : Sorting number Good P trigger shape) :
    Twin number bound Good P (connectorChanged first number trigger shape)
      (connectorChanged second number trigger shape) := by
  have hcall : (Step.connectorChanged number trigger shape.id).IsCall := trivial
  exact (call_twin hupkeep hcall).andThen (reconsider_twin hagree hupkeep hsort)

theorem runEach_twin (hagree : Agree number Good Due first second bound)
    (hupkeep : Upkeep number Good Due) (trigger : Trigger) (fires : Session → String → Bool)
    (connectors : List String) :
    Twin number bound Good Good (runEach first number trigger fires connectors)
      (runEach second number trigger fires connectors) := by
  exact .foldl connectors fun connector _ =>
    .cond _ (propagate_twin hagree hupkeep trigger connector) .rest

theorem runAffected_twin (hagree : Agree number Good Due first second bound)
    (hupkeep : Upkeep number Good Due) (trigger : Trigger) (shape : Shape) :
    Twin number bound Good Good (runAffected first number trigger shape)
      (runAffected second number trigger shape) := by
  have hrunEach := runEach_twin hagree hupkeep
  cases trigger with
  | change =>
    refine .cond _ (.seen (F := fun s => runEach first number .change joinsTwo
      (s.connectorsFrom (s.engineAt number) shape.id)) fun s _ _ => ?_) .rest
    exact hrunEach .change joinsTwo _
  | spatial =>
    refine .cond _ .rest (.seen (F := fun s => runEach first number .spatial (fun _ _ => true)
      ((s.engineAt number).tracked .spatial)) fun s _ _ => ?_)
    exact hrunEach .spatial _ _
  | click => exact .rest
  | tick => exact .rest

theorem afterChange_twin (hagree : Agree number Good Due first second bound)
    (hupkeep : Upkeep number Good Due) (trigger : Trigger) (shape : Shape) :
    Twin number bound Good Good (afterChange first number trigger shape)
      (afterChange second number trigger shape) := by
  have hcall : (Step.shapeChanged number trigger shape.id).IsCall := trivial
  exact (call_twin hupkeep hcall).andThen (runAffected_twin hagree hupkeep trigger shape)

theorem runOnce_twin (hagree : Agree number Good Due first second bound)
    (hupkeep : Upkeep number Good Due) (trigger : Trigger) (connectors ran : List String) :
    Twin number bound Good Good (runOnce first number trigger ran connectors)
      (runOnce second number trigger ran connectors) := by
  induction connectors generalizing ran with
  | nil => exact .rest
  | cons connector rest ih =>
    have hpropagate := propagate_twin hagree hupkeep trigger connector
    exact .cond _ (hpropagate.andThen (ih (connector :: ran))) (ih ran)

theorem afterFrame_twin (hagree : Agree number Good Due first second bound)
    (hupkeep : Upkeep number Good Due) (trigger : Trigger) :
    Twin number bound Good Good (afterFrame first number trigger)
      (afterFrame second number trigger) := by
  refine .cond _ (.seen (F := fun s => runEach first number .tick (fun _ _ => true)
    ((s.engineAt number).tracked .tick)) fun s _ _ => ?_) .rest
  exact runEach_twin hagree hupkeep .tick _ _

theorem afterInput_twin (hagree : Agree number Good Due first second bound)
    (hupkeep : Upkeep number Good Due) (trigger : Trigger) (event : InputEvent) :
    ActTwin number bound Good Good (afterInput first number trigger event)
      (afterInput second number trigger event) := by
  unfold afterInput
  split
  · refine .get fun s _ _ => .bind (.result _) fun hit => ?_
    cases hit with
    | none => exact .result (.ok ())
    | some shape =>
      simp only
      split
      · exact .change (runOnce_twin hagree hupkeep .click _ [])
      · exact .result (.ok ())
  · exact .result (.ok ())

theorem eachPropagator_twin {f g : Trigger → Session → Session}
    (h : ∀ trigger, Twin number bound P P (f trigger) (g trigger)) :
    Twin number bound P P (eachPropagator number f) (eachPropagator number g) :=
  fun s => Twin.foldl (s.engineAt number).triggers (fun trigger _ => h trigger) s

theorem innerChanged_twin (hagree : Agree number Good Due first second bound)
    (hupkeep : Upkeep number Good Due) (id : String) :
    Twin number bound Good Good (innerChanged first number id) (innerChanged second number id) := by
  intro s hfit hgood hbound
  unfold innerChanged
  cases s.document.shape? id with
  | none => exact Twin.rest s hfit hgood hbound
  | some shape =>
    exact eachPropagator_twin (fun trigger => afterChange_twin hagree hupkeep trigger shape)
      s hfit hgood hbound

theorem outerChanged_twin (hagree : Agree number Good Due first second bound)
    (hupkeep : Upkeep number Good Due) (connectorType : String) {shape : Shape} {trigger : Trigger}
    (hsort : Sorting number Good P trigger shape)
    (hpassed : shape.type ≠ connectorType → ∀ s, Good s → P s):
    Twin number bound Good P (outerChanged first number connectorType shape trigger)
      (outerChanged second number connectorType shape trigger) := by
  have hafter := afterChange_twin hagree hupkeep trigger shape
  unfold outerChanged
  by_cases htype : shape.type = connectorType
  · simp only [htype, if_true]
    exact hafter.andThen (connectorChanged_twin hagree hupkeep hsort)
  · simp only [htype, if_false]
    exact hafter.mono (fun _ _ hgood => hgood) fun s _ hgood => hpassed htype s hgood

/-- What follows a change of a shape keeps a property that holds wherever the shape, if it is a
connector, is tracked or untracked. -/
theorem spread_twin (hagree : Agree number Good Due first second bound)
    (hupkeep : Upkeep number Good Due) {shape : Shape}
    (hsort : ∀ trigger, Sorting number Good Good trigger shape) :
    Twin number bound Good Good (spread first number shape) (spread second number shape) := by
  intro s
  unfold spread
  simp only
  split
  · exact Twin.foldl _ (fun id _ => innerChanged_twin hagree hupkeep id) s
  · exact eachPropagator_twin (fun trigger =>
      outerChanged_twin hagree hupkeep _ (hsort trigger) fun _ _ hgood => hgood) s

/-- What an engine does after a change of a binding. -/
theorem engineRebound_twin (hagree : Agree number Good Due first second bound)
    (hupkeep : Upkeep number Good Due) {binding : Binding}
    (hsort : ∀ {s : Session} {shape : Shape}, Fit number s → Good s →
      s.document.shape? binding.connector = some shape →
        ∀ trigger, Sorting number Good Good trigger shape) :
    Twin number bound Good Good (engineRebound first number binding)
      (engineRebound second number binding) := by
  intro s hfit hgood hbound
  unfold engineRebound
  simp only
  split
  · exact Twin.rest s hfit hgood hbound
  · cases hshape : s.document.shape? binding.connector with
    | none => exact Twin.rest s hfit hgood hbound
    | some shape =>
      simp only
      split
      · exact Twin.rest s hfit hgood hbound
      · exact eachPropagator_twin (fun trigger =>
          connectorChanged_twin hagree hupkeep (hsort hfit hgood hshape trigger)) s hfit hgood
          hbound

end Reactions

end Canvasflow.Session
