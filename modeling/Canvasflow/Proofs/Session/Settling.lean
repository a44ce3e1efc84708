import Canvasflow.Proofs.Session.Tracking

/-!
# Settling

What one look at a connector comes to. While no connector runs, a propagator that looks at a
connector decides whether to track it, and what one of them has decided the cascades of the others
leave alone: a stage of a course goes over to one at which one trigger more is settled.
`spread_settles` and `rebound_settles` say so of all propagators after a change of the connector
and of its bindings, and `classifyAll_settles` of a start.
-/

namespace Canvasflow.Session

open Canvasflow.Connector Canvasflow.Page Canvasflow.Propagation

variable {number bound : Nat} {connector connectorType : String} {face? : Option Face}
  {first second : Notify} {s t : Session}

/-- A session in which no connector runs, with an engine for connectors of a type. -/
def Idle (number : Nat) (connectorType : String) (s : Session) : Prop :=
  (s.engineAt number).guard.stack = [] ∧ (s.engineAt number).options.connectorType = connectorType

theorem Idle.steady (h : Idle number connectorType s) (hsteady : Steady number s t) :
    Idle number connectorType t :=
  ⟨by rw [hsteady.guard, h.1], by rw [hsteady.options, h.2]⟩

/-- A stage of a course at which no connector runs. -/
abbrev Resting (number : Nat) (connector connectorType : String) (face? : Option Face)
    (settled : List Trigger) (s : Session) : Prop :=
  Course number connector face? settled s ∧ Idle number connectorType s

/-- What no kept session loses may be added. -/
theorem Twin.keeping {P Q R : Session → Prop} {f g : Session → Session}
    (hkeep : ∀ {s t : Session}, Kept number s t → R s → R t) (h : Twin number bound P Q f g) :
    Twin number bound (fun s => P s ∧ R s) (fun s => Q s ∧ R s) f g := by
  rintro s hfit ⟨hP, hR⟩ hbound
  obtain ⟨hsame, hreached⟩ := h s hfit hP hbound
  exact ⟨hsame, hreached.kept, ⟨hreached.good, hkeep hreached.kept hR⟩, hreached.low⟩

section Settling

variable (hagree : ∀ settled : List Trigger, Agree number (Course number connector face? settled)
  (CourseDue number connector face? settled) first second bound)

include hagree

/-- A connector that is looked at while none runs is classified under the trigger. -/
theorem connectorChanged_settles {shape : Shape} (hid : shape.id = connector)
    (htype : shape.type = connectorType) (hface : face? = some shape.face) (trigger : Trigger)
    (settled : List Trigger) :
    Twin number bound (Resting number connector connectorType face? settled)
      (Resting number connector connectorType face? (trigger :: settled))
      (connectorChanged first number trigger shape)
      (connectorChanged second number trigger shape) := by
  have hshown : Shown connector face? shape := fun _ => hface
  have hmore : ∀ other ∈ trigger :: settled,
      other ∈ settled ∨ other = trigger ∧ shape.id = connector := by
    intro other hmem
    exact (List.mem_cons.mp hmem).symm.imp_right fun heq => ⟨heq, hid⟩
  have hsort : Sorting number (Course number connector face? settled)
      (fun t => Idle number connectorType t → Course number connector face? (trigger :: settled) t)
      trigger shape := by
    refine ⟨fun _ _ hpassed hidle => ?_, fun hfit h hedge htrigger _ =>
      h.track hfit hshown hedge htrigger hmore, fun hfit h hreason _ =>
      h.untrack hfit (h.reason hshown hreason) hmore⟩
    -- The look is left out for other shapes and for connectors that run, and it is neither.
    rcases hpassed with hother | hrunning
    · exact absurd (htype.trans hidle.2.symm) hother
    · simp [Guard.isRunning, hidle.1] at hrunning
  rintro s hfit ⟨hcourse, hidle⟩ hbound
  obtain ⟨hsame, hreached⟩ := connectorChanged_twin (hagree settled)
    (upkeep_course number connector face? settled) hsort s hfit hcourse hbound
  have hidle' := hidle.steady hreached.kept.toSteady
  exact ⟨hsame, hreached.kept, ⟨hreached.good hidle', hidle'⟩, hreached.low⟩

theorem outerChanged_settles {shape : Shape} (hid : shape.id = connector)
    (htype : shape.type = connectorType) (hface : face? = some shape.face) (trigger : Trigger)
    (settled : List Trigger) :
    Twin number bound (Resting number connector connectorType face? settled)
      (Resting number connector connectorType face? (trigger :: settled))
      (outerChanged first number connectorType shape trigger)
      (outerChanged second number connectorType shape trigger) := by
  have hafter := Twin.keeping (R := Idle number connectorType)
    (fun hkept h => h.steady hkept.toSteady)
    (afterChange_twin (hagree settled) (upkeep_course number connector face? settled) trigger shape)
  unfold outerChanged
  simp only [htype, if_true]
  exact hafter.andThen (connectorChanged_settles hagree hid htype hface trigger settled)

omit hagree

variable {f g : Trigger → Session → Session}

/-- Propagators that classify the connector one after another do so under all their triggers. -/
theorem foldl_settles (h : ∀ (trigger : Trigger) (settled : List Trigger),
      Twin number bound (Resting number connector connectorType face? settled)
        (Resting number connector connectorType face? (trigger :: settled)) (f trigger) (g trigger))
    (triggers settled : List Trigger) :
    Twin number bound (Resting number connector connectorType face? settled)
      (Resting number connector connectorType face? (triggers.reverse ++ settled))
      (fun s => triggers.foldl (fun s trigger => f trigger s) s)
      (fun s => triggers.foldl (fun s trigger => g trigger s) s) := by
  induction triggers generalizing settled with
  | nil => exact .rest
  | cons trigger rest ih =>
    rw [List.reverse_cons, List.append_assoc, List.singleton_append]
    exact (h trigger settled).andThen (ih (trigger :: settled))

theorem eachPropagator_settles (h : ∀ (trigger : Trigger) (settled : List Trigger),
      Twin number bound (Resting number connector connectorType face? settled)
        (Resting number connector connectorType face? (trigger :: settled)) (f trigger)
        (g trigger)) :
    Twin number bound (Resting number connector connectorType face? [])
      (Course number connector face? Trigger.all) (eachPropagator number f)
      (eachPropagator number g) := by
  intro s hfit hresting hbound
  obtain ⟨hsame, hreached⟩ := foldl_settles h (s.engineAt number).triggers [] s hfit hresting hbound
  refine ⟨hsame, hreached.kept, ⟨hreached.good.1.face, hreached.good.1.free, fun trigger _ => ?_⟩,
    hreached.low⟩
  -- A propagator that the engine has took its turn; under the others nothing is tracked.
  by_cases hmem : trigger ∈ (s.engineAt number).triggers
  · exact hreached.good.1.classified trigger (by simpa using hmem)
  · exact classified_of_absent (by rwa [← hreached.kept.triggers] at hmem)

include hagree

/-- A change of the connector, in an engine whose connectors are not its groups. -/
theorem spread_settles {shape : Shape} (hid : shape.id = connector)
    (htype : shape.type = connectorType) (hface : face? = some shape.face) :
    Twin number bound (fun s => Resting number connector connectorType face? [] s ∧
        (s.engineAt number).options.connectorType ≠ (s.engineAt number).options.groupType)
      (Course number connector face? Trigger.all)
      (spread first number shape) (spread second number shape) := by
  rintro s hfit ⟨hresting, hapart⟩ hbound
  have hgroup : shape.type ≠ (s.engineAt number).options.groupType := by
    rwa [htype, ← hresting.2.2]
  simp only [spread, if_neg hgroup, hresting.2.2]
  exact eachPropagator_settles (outerChanged_settles hagree hid htype hface) s hfit hresting hbound

/-- A change of a binding of the connector. -/
theorem rebound_settles {binding : Binding} (hconnector : binding.connector = connector)
    (hbinding : binding.type = connectorType)
    (htype : ∀ face, face? = some face → face.type = connectorType) (hface : face?.isSome) :
    Twin number bound (Resting number connector connectorType face? [])
      (Course number connector face? Trigger.all)
      (engineRebound first number binding) (engineRebound second number binding) := by
  intro s hfit hresting hbound
  have hcourse := hresting.1.face
  cases hshape : s.document.shape? connector with
  | none =>
    rw [hshape] at hcourse
    rw [← hcourse] at hface
    cases hface
  | some shape =>
    rw [hshape, Option.map_some] at hcourse
    have hshapeType : shape.type = connectorType := htype shape.face hcourse.symm
    have hid := hfit.sound.id_eq hshape
    simp only [engineRebound, hresting.2.2, hbinding, hconnector, hshape, hshapeType, ne_eq,
      not_true_eq_false, if_false]
    exact eachPropagator_settles (connectorChanged_settles hagree hid hshapeType hcourse.symm) s
      hfit hresting hbound

end Settling

/-! ## Starts -/

/-- A connector on the page is classified under a trigger when all connectors are looked at. -/
theorem eachConnector_settles (hagree : ∀ settled : List Trigger,
      Agree number (Course number connector face? settled)
        (CourseDue number connector face? settled) first second bound)
    (htype : ∀ face, face? = some face → face.type = connectorType) {shapes : List Shape}
    (hshown : ∀ shape ∈ shapes, Shown connector face? shape)
    (hmem : ∃ shape ∈ shapes, shape.id = connector) (trigger : Trigger) (settled : List Trigger) :
    Twin number bound (Resting number connector connectorType face? settled)
      (Resting number connector connectorType face? (trigger :: settled))
      (fun s => shapes.foldl (fun s shape => connectorChanged first number trigger shape s) s)
      (fun s => shapes.foldl
        (fun s shape => connectorChanged second number trigger shape s) s) := by
  -- The turn of another connector, or one after its own, leaves this one settled as it is.
  have hpass (settled : List Trigger) {shape : Shape} (hshape : Shown connector face? shape) :
      Twin number bound (Resting number connector connectorType face? settled)
        (Resting number connector connectorType face? settled)
        (connectorChanged first number trigger shape)
        (connectorChanged second number trigger shape) :=
    .keeping (fun hkept h => h.steady hkept.toSteady) (connectorChanged_twin (hagree settled)
      (upkeep_course number connector face? settled) (sorting_course trigger settled hshape))
  induction shapes with
  | nil =>
    obtain ⟨shape, hshape, _⟩ := hmem
    cases hshape
  | cons shape rest ih =>
    have hrest : ∀ other ∈ rest, Shown connector face? other :=
      fun other hother => hshown other (List.mem_cons_of_mem _ hother)
    by_cases hid : shape.id = connector
    · have hface : face? = some shape.face := hshown shape List.mem_cons_self hid
      exact (connectorChanged_settles hagree hid (htype shape.face hface)
        hface trigger settled).andThen
        (.foldl rest fun other hother => hpass (trigger :: settled) (hrest other hother))
    · refine (hpass settled (hshown shape List.mem_cons_self)).andThen (ih hrest ?_)
      obtain ⟨other, hother, heq⟩ := hmem
      rcases List.mem_cons.mp hother with rfl | hlater
      · exact absurd heq hid
      · exact ⟨other, hlater, heq⟩

/-- Looking at all connectors of the page leaves a connector classified that was not tracked
before. -/
theorem classifyAll_settles (hagree : ∀ settled : List Trigger,
      Agree number (Course number connector face? settled)
        (CourseDue number connector face? settled) first second bound)
    {shapes : List Shape} (hshown : ∀ shape ∈ shapes, Shown connector face? shape)
    (hmem : face?.isSome → ∃ shape ∈ shapes, shape.id = connector) :
    Twin number bound
      (fun s => Resting number connector connectorType face? [] s ∧
        ∀ trigger, ¬ Tracks number trigger connector s)
      (Course number connector face? Trigger.all)
      (classifyAll first number shapes) (classifyAll second number shapes) := by
  rintro s hfit ⟨hresting, huntracked⟩ hbound
  by_cases htype : ∃ face, face? = some face ∧ face.type = connectorType
  · obtain ⟨face, rfl, htype⟩ := htype
    obtain ⟨shape, hshape, hid⟩ := hmem rfl
    have hface : face = shape.face := Option.some.inj (hshown shape hshape hid)
    simp only [classifyAll, hresting.2.2]
    refine eachPropagator_settles (eachConnector_settles hagree ?_ ?_ ⟨shape, ?_, hid⟩) s hfit
      hresting hbound
    · rintro _ ⟨⟩
      exact htype
    · exact fun other hother => hshown other (List.mem_filter.mp hother).1
    · have hconnector : shape.type = connectorType := (congrArg Face.type hface).symm.trans htype
      exact List.mem_filter.mpr ⟨hshape, by simpa using hconnector⟩
  · -- The connector is not looked at, and it has no edge either.
    have hcourse : Course number connector face? Trigger.all s := by
      refine ⟨hresting.1.face, hresting.1.free, fun trigger _ =>
        ⟨fun htracked => absurd htracked (huntracked trigger),
          fun htracked => absurd htracked (huntracked trigger), fun _ _ heligible => ?_⟩⟩
      obtain ⟨edge, hedge, _⟩ := heligible
      obtain ⟨shape, hshape, hedge⟩ := Option.bind_eq_some_iff.mp hedge
      have hface := hresting.1.face
      rw [hshape, Option.map_some] at hface
      exact absurd ⟨shape.face, hface.symm, (Edge.of?_some hedge).1.trans hresting.2.2⟩ htype
    exact classifyAll_twin (hagree Trigger.all) (upkeep_course number connector face? Trigger.all)
      shapes (fun trigger shape hshape => sorting_course trigger Trigger.all (hshown shape hshape))
      s hfit hcourse hbound

end Canvasflow.Session
