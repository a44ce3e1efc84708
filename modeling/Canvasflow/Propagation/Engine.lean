import Canvasflow.Connector.Cache
import Canvasflow.Connector.Listeners
import Canvasflow.Frame.Timer
import Canvasflow.Geometry.Plane
import Canvasflow.Propagation.Guard
import Canvasflow.Settings

/-!
# Engines

A propagator looks after the connectors with one trigger: it tracks them and keeps their programs.
An engine is a set of propagators with different triggers that share a cascade guard, a frame timer
and an index of the shapes on the page.
-/

namespace Canvasflow.Propagation

open Canvasflow.Connector Canvasflow.Geometry

/-- What an engine takes from the settings. -/
structure Options where
  connectorType : String
  groupType : String
  clickTargets : List String
  closedTypes : List String
  maxDepth : Int
  maxSteps : Int
  maxDelta : Float
  deriving Inhabited

/-- The options that settings give. -/
def Options.ofSettings (settings : Settings) : Options where
  connectorType := Settings.textOf settings.connectorType
  groupType := Settings.textOf settings.groupType
  clickTargets := Settings.typeNames settings.clickTargetTypes
  closedTypes := Settings.typeNames settings.closedShapeTypes
  maxDepth := Settings.countOf settings.maxCascadeDepth
  maxSteps := Settings.budgetOf settings.maxProgramSteps
  maxDelta := Settings.measureOf settings.maxDelta

/-- Why an engine cannot be built. -/
inductive SetupFault where
  | cellSizeNotNumber
  | cellSizeNotPositive (shown : String)
  | typesNotSequence
  | duplicateTriggers (triggers : List Trigger)
  deriving DecidableEq, Repr

/-- What is said of an engine that cannot be built. -/
def SetupFault.message : SetupFault → String
  | cellSizeNotNumber => "cell_size must be a number"
  | cellSizeNotPositive shown => "cell_size must be positive, got " ++ shown
  | typesNotSequence => "Shape types must be a sequence"
  | duplicateTriggers triggers =>
    "Duplicate propagator kinds: " ++
      (Data.list ((triggers.map Trigger.name).mergeSort.map Data.str)).shown

/-- The connectors with one trigger. -/
structure Propagator where
  trigger : Trigger
  listeners : Listeners
  cache : ProgramCache

/-- Whether connectors of a trigger run once before they are tracked. -/
def validates (trigger : Trigger) : Bool :=
  trigger = .tick

namespace Propagator

/-- A propagator that tracks nothing. -/
def idle (maxSteps : Int) (trigger : Trigger) : Propagator :=
  ⟨trigger, .empty, .empty trigger maxSteps⟩

/-- Track a connector no longer. -/
def untrack (propagator : Propagator) (connector : String) : Propagator :=
  { propagator with
    listeners := propagator.listeners.remove connector
    cache := propagator.cache.delete connector }

/-- Track nothing any more. -/
def reset (propagator : Propagator) : Propagator :=
  { propagator with listeners := .empty, cache := propagator.cache.clear }

end Propagator

/-- Propagators and what they share. An engine without an index has been left on its own. -/
structure Engine where
  options : Options
  guard : Guard
  timer : Frame.Timer
  index? : Option (GridIndex Float)
  propagators : List Propagator
  running : Bool
  deriving Inhabited

namespace Engine

/-- An engine with the given propagators that is not running. -/
def idle (options : Options) (index? : Option (GridIndex Float)) (triggers : List Trigger) : Engine where
  options := options
  guard := .idle options.maxDepth
  timer := .idle options.maxDelta
  index? := index?
  propagators := triggers.map (Propagator.idle options.maxSteps)
  running := false

/-- The cells of an engine's index. -/
def index (cellSize : Data) : Except SetupFault (GridIndex Float) :=
  match cellSize with
  | .num _ | .bool _ =>
    let size := Settings.measureOf cellSize
    if size ≤ 0.0 then .error (.cellSizeNotPositive cellSize.shown) else .ok (.empty size)
  | .null | .str _ | .list _ | .record _ => .error .cellSizeNotNumber

/-- An engine for the given triggers, which have to be different. -/
def build (settings : Settings) (triggers : List Trigger) : Except SetupFault Engine := do
  let index ← index settings.cellSize
  if (settings.closedShapeTypes.bind Settings.members?).isNone then throw .typesNotSequence
  let duplicates := Trigger.all.filter fun trigger => 1 < triggers.count trigger
  if !duplicates.isEmpty then throw (.duplicateTriggers duplicates)
  return idle (.ofSettings settings) (some index) triggers

/-- The propagator of a trigger. -/
def propagator? (engine : Engine) (trigger : Trigger) : Option Propagator :=
  engine.propagators.find? fun propagator => propagator.trigger = trigger

/-- Change the propagator of a trigger. -/
def modify (engine : Engine) (trigger : Trigger) (change : Propagator → Propagator) : Engine :=
  { engine with
    propagators := engine.propagators.map fun propagator =>
      if propagator.trigger = trigger then change propagator else propagator }

/-- The triggers of the propagators, in order. -/
def triggers (engine : Engine) : List Trigger :=
  engine.propagators.map Propagator.trigger

/-- Whether a connector is tracked under a trigger. -/
def tracks (engine : Engine) (trigger : Trigger) (connector : String) : Bool :=
  match engine.propagator? trigger with
  | some propagator => propagator.listeners.isActive connector
  | none => false

/-- Whether a shape is an end of a connector that is tracked under a trigger. -/
def watches (engine : Engine) (trigger : Trigger) (node : String) : Bool :=
  match engine.propagator? trigger with
  | some propagator => propagator.listeners.isWatched node
  | none => false

/-- The connectors that are tracked under a trigger. -/
def tracked (engine : Engine) (trigger : Trigger) : List String :=
  match engine.propagator? trigger with
  | some propagator => propagator.listeners.active
  | none => []

end Engine

end Canvasflow.Propagation
