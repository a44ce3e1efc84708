import Canvasflow.Proofs.Connector.Listeners
import Canvasflow.Propagation.Engine

/-!
# What engines track

How the connectors that an engine tracks follow its propagators. Tracking an edge and tracking a
connector no longer concern one connector under one trigger, and only a trigger of the engine;
other changes of a propagator that keep its listeners track what was tracked.
-/

namespace Canvasflow.Connector

open Canvasflow.Page

namespace Listeners

variable {listeners : Listeners} {connector : String}

theorem isActive_add {edge : Edge} :
    (listeners.add edge).isActive connector = true ↔
      connector = edge.connector ∨ listeners.isActive connector = true := by
  by_cases heq : connector = edge.connector
  · simp [isActive, Entries.has, heq]
  · simp [isActive, Entries.has, heq, Entries.find?_set_of_ne heq]

theorem isActive_remove {other : String} :
    (listeners.remove other).isActive connector = true ↔
      connector ≠ other ∧ listeners.isActive connector = true := by
  by_cases heq : connector = other
  · simp [isActive, Entries.has, heq]
  · simp [isActive, Entries.has, heq, Entries.find?_erase_of_ne heq]

end Listeners

/-- What an edge takes from its connector. -/
theorem Edge.of?_some {connectorType : String} {bindings : List Binding}
    {shape : Shape} {edge : Edge} (h : Edge.of? connectorType bindings shape = some edge) :
    shape.type = connectorType ∧ edge.connector = shape.id ∧ edge.text = shape.text := by
  unfold Edge.of? at h
  split at h
  · rename_i htype
    split at h
    · split at h <;> cases h <;> exact ⟨htype, rfl, rfl⟩
    · cases h
  · cases h

end Canvasflow.Connector

namespace Canvasflow.Propagation.Engine

open Canvasflow.Connector

variable {engine : Engine} {trigger other : Trigger} {connector : String}

theorem propagator?_modify {change : Propagator → Propagator}
    (h : ∀ propagator, (change propagator).trigger = propagator.trigger) :
    (engine.modify trigger change).propagator? other =
      if other = trigger then
        (engine.propagator? trigger).map change else engine.propagator? other := by
  simp only [propagator?, modify]
  induction engine.propagators with
  | nil => simp
  | cons propagator rest ih =>
    by_cases hfirst : propagator.trigger = trigger
    · by_cases heq : other = trigger
      · simp [hfirst, h, heq]
      · have hne : propagator.trigger ≠ other := fun hsame => heq (hsame.symm.trans hfirst)
        simpa [hfirst, h, heq, Ne.symm heq, hne] using ih
    · by_cases heq : propagator.trigger = other
      · simp [heq, heq ▸ hfirst]
      · simpa [hfirst, heq] using ih

theorem isSome_propagator? : (engine.propagator? trigger).isSome ↔ trigger ∈ engine.triggers := by
  simp [propagator?, triggers, List.find?_isSome]

/-- What an engine listens to under a trigger. -/
def listeners? (engine : Engine) (trigger : Trigger) : Option Listeners :=
  (engine.propagator? trigger).map Propagator.listeners

theorem tracks_eq_any (engine : Engine) (trigger : Trigger) (connector : String) :
    engine.tracks trigger connector =
      (engine.listeners? trigger).any fun listeners => listeners.isActive connector := by
  unfold tracks listeners?
  cases engine.propagator? trigger <;> rfl

theorem watches_eq_any (engine : Engine) (trigger : Trigger) (node : String) :
    engine.watches trigger node =
      (engine.listeners? trigger).any fun listeners => listeners.isWatched node := by
  unfold watches listeners?
  cases engine.propagator? trigger <;> rfl

theorem isSome_listeners? : (engine.listeners? trigger).isSome ↔ trigger ∈ engine.triggers := by
  rw [listeners?, Option.isSome_map, isSome_propagator?]

/-- Nothing is tracked under a trigger that the engine does not have. -/
theorem mem_triggers_of_tracks (h : engine.tracks trigger connector = true) :
    trigger ∈ engine.triggers := by
  rw [← isSome_listeners?]
  rw [tracks_eq_any] at h
  cases hfound : engine.listeners? trigger with
  | none => simp [hfound] at h
  | some listeners => rfl

/-- A change of what a propagator listens to. -/
theorem listeners?_modify {change : Propagator → Propagator} {listen : Listeners → Listeners}
    (htrigger : ∀ propagator, (change propagator).trigger = propagator.trigger)
    (hlisten : ∀ propagator, (change propagator).listeners = listen propagator.listeners) :
    (engine.modify trigger change).listeners? other =
      if other = trigger then (engine.listeners? trigger).map listen
      else engine.listeners? other := by
  rw [listeners?, propagator?_modify htrigger]
  by_cases heq : other = trigger
  · rw [if_pos heq, if_pos heq, listeners?, Option.map_map, Option.map_map]
    exact congrFun (congrArg Option.map (funext hlisten)) _
  · rw [if_neg heq, if_neg heq, listeners?]

/-- A change of a propagator that keeps its listeners. -/
theorem listeners?_modify_of_eq {change : Propagator → Propagator}
    (htrigger : ∀ propagator, (change propagator).trigger = propagator.trigger)
    (hlisteners : ∀ propagator, (change propagator).listeners = propagator.listeners) :
    (engine.modify trigger change).listeners? other = engine.listeners? other := by
  have hlisten : ∀ propagator, (change propagator).listeners = id propagator.listeners := hlisteners
  rw [listeners?_modify htrigger hlisten, Option.map_id_fun, id]
  split
  · rename_i heq
    rw [heq]
  · rfl

theorem listeners?_add {edge : Edge} :
    (engine.modify trigger fun propagator =>
      { propagator with listeners := propagator.listeners.add edge }).listeners? other =
      if other = trigger then (engine.listeners? trigger).map (Listeners.add · edge)
      else engine.listeners? other :=
  listeners?_modify (fun _ => rfl) fun _ => rfl

theorem listeners?_untrack {tracked : String} :
    (engine.modify trigger fun propagator => propagator.untrack tracked).listeners? other =
      if other = trigger then (engine.listeners? trigger).map (Listeners.remove · tracked)
      else engine.listeners? other :=
  listeners?_modify (fun _ => rfl) fun _ => rfl

theorem tracks_add {edge : Edge} :
    (engine.modify trigger fun propagator =>
      { propagator with listeners := propagator.listeners.add edge }).tracks other connector
        = true ↔ engine.tracks other connector = true ∨
          other = trigger ∧ connector = edge.connector ∧ trigger ∈ engine.triggers := by
  rw [tracks_eq_any, tracks_eq_any, listeners?_add, ← isSome_listeners?]
  by_cases heq : other = trigger
  · subst heq
    rw [if_pos rfl]
    cases engine.listeners? other with
    | none => simp
    | some listeners => simpa [Listeners.isActive_add] using or_comm
  · simp [heq]

theorem tracks_untrack {tracked : String} :
    (engine.modify trigger fun propagator => propagator.untrack tracked).tracks other connector
      = true ↔
      engine.tracks other connector = true ∧ ¬ (other = trigger ∧ connector = tracked) := by
  rw [tracks_eq_any, tracks_eq_any, listeners?_untrack]
  by_cases heq : other = trigger
  · subst heq
    rw [if_pos rfl]
    cases engine.listeners? other with
    | none => simp
    | some listeners => simpa [Listeners.isActive_remove] using and_comm
  · simp [heq]

/-- Whether a connector is tracked under a trigger by an edge of which both ends are watched. -/
def Follows (engine : Engine) (trigger : Trigger) (connector : String) (edge : Edge) : Prop :=
  ∃ listeners, engine.listeners? trigger = some listeners ∧ listeners.Follows connector edge

theorem Follows.watches {edge : Edge} {node : String} (h : engine.Follows trigger connector edge)
    (htouches : edge.Touches node) : engine.watches trigger node = true := by
  obtain ⟨listeners, hlisteners, _, hwatched⟩ := h
  rw [watches_eq_any, hlisteners, Option.any_some]
  exact hwatched node htouches

theorem Follows.congr {edge : Edge} {engine' : Engine} (h : engine.Follows trigger connector edge)
    (hlisteners : engine'.listeners? trigger = engine.listeners? trigger) :
    engine'.Follows trigger connector edge := by
  rwa [Follows, hlisteners]

/-- A connector is followed by the edge that was added. -/
theorem follows_added {edge : Edge} (hmem : trigger ∈ engine.triggers) :
    (engine.modify trigger fun propagator =>
      { propagator with listeners := propagator.listeners.add edge }).Follows trigger
        edge.connector edge := by
  obtain ⟨listeners, hlisteners⟩ := Option.isSome_iff_exists.mp (isSome_listeners?.mpr hmem)
  exact ⟨listeners.add edge, by rw [listeners?_add, if_pos rfl, hlisteners, Option.map_some],
    listeners.follows_add edge⟩

/-- An edge that is added leaves it alone how another connector, or one under another trigger, is
followed. -/
theorem Follows.add {edge new : Edge} (h : engine.Follows other connector edge)
    (hne : ¬ (other = trigger ∧ connector = new.connector)) :
    (engine.modify trigger fun propagator =>
      { propagator with listeners := propagator.listeners.add new }).Follows other
        connector edge := by
  obtain ⟨listeners, hlisteners, hfollows⟩ := h
  by_cases heq : other = trigger
  · subst heq
    exact ⟨listeners.add new, by rw [listeners?_add, if_pos rfl, hlisteners, Option.map_some],
      hfollows.add fun hsame => hne ⟨rfl, hsame⟩⟩
  · exact ⟨listeners, by rw [listeners?_add, if_neg heq, hlisteners], hfollows⟩

theorem Follows.untrack {edge : Edge} {tracked : String} (h : engine.Follows other connector edge)
    (hne : ¬ (other = trigger ∧ connector = tracked)) :
    (engine.modify trigger fun propagator => propagator.untrack tracked).Follows other
      connector edge := by
  obtain ⟨listeners, hlisteners, hfollows⟩ := h
  by_cases heq : other = trigger
  · subst heq
    exact ⟨listeners.remove tracked,
      by rw [listeners?_untrack, if_pos rfl, hlisteners, Option.map_some],
      hfollows.remove fun hsame => hne ⟨rfl, hsame⟩⟩
  · exact ⟨listeners, by rw [listeners?_untrack, if_neg heq, hlisteners], hfollows⟩

/-- An engine that is not running yet tracks nothing. -/
theorem tracks_idle (options : Options) (index? : Option (Geometry.GridIndex Float))
    (triggers : List Trigger) :
    (idle options index? triggers).tracks trigger connector = false := by
  unfold tracks
  cases hfound : (idle options index? triggers).propagator? trigger with
  | none => rfl
  | some propagator =>
    obtain ⟨own, _, rfl⟩ := List.mem_map.mp (List.mem_of_find?_eq_some hfound)
    rfl

end Canvasflow.Propagation.Engine
