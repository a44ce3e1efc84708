import Canvasflow.Session.Change
import Canvasflow.Session.World

/-!
# Runs of connectors

A run of a connector packs its source and its target, executes its program, and writes the record
that the program returns onto the target in a single change. A run that fails at any point changes
nothing, and the marker of the connector tells the outcome. `propagate` is the guarded run, and
`reconsider` decides anew whether a connector is tracked.
-/

namespace Canvasflow.Session

open Canvasflow.Connector Canvasflow.Page Canvasflow.Program Canvasflow.Propagation

variable (notify : Notify) (number : Nat) (trigger : Trigger)

/-- Change a propagator of an engine. -/
def modifyPropagator (session : Session) (number : Nat) (trigger : Trigger)
    (change : Propagator → Propagator) : Session :=
  session.modifyEngine number fun engine => engine.modify trigger change

/-- The program of a connector, from the cache of a propagator. -/
def lookUpProgram (connector : String) : Act (Option Compiled) := do
  let session ← get
  match (session.engineAt number).propagator? trigger with
  | none => return none
  | some propagator =>
    let (program?, cache) := propagator.cache.get connector (session.textOf? connector)
    Act.change fun session => session.modifyPropagator number trigger fun propagator =>
      { propagator with cache := cache }
    return program?

/-- What a program returned, as a patch of the target. The record that it returned is laid over the
snapshot of the target that it was given; the identity and the type stay those of the target. -/
def resultPatch (heap : Heap) (targetSnapshot : Value) (target : Shape) (result : Value) :
    Except Fault (Option Patch) :=
  match result with
  | .null => .ok none
  | .record place =>
    let given : Entries Value := match targetSnapshot with
      | .record snapshot => heap.fields snapshot
      | _ => []
    let merged := Entries.merge given (heap.fields place)
    let named := Entries.set "type" (.str target.type) (Entries.set "id" (.str target.id) merged)
    match unpackFields heap named with
    | .ok patch => .ok (some patch)
    | .error failure => .error (.program failure)
  | other => .error (.resultNotRecord other.hostType)

/-- Execute a program on the two ends of an edge. The lines that it logs come beside the outcome. -/
def execute (session : Session) (engine : Engine) (program : Compiled) (source target : Shape) :
    Except Fault (Option Patch) × Array String :=
  let (sourceSnapshot, withSource) := Heap.empty.load (pack source)
  let (targetSnapshot, withTarget) := withSource.load (pack target)
  let parameters : Parameters :=
    ⟨.space .editor, sourceSnapshot, targetSnapshot, .space .geo, Builtin.bounds.value,
      .double engine.timer.step⟩
  let (result, machine) := program.run (session.world engine) withTarget 0 parameters
  let outcome := match result with
    | .ok value => resultPatch machine.heap targetSnapshot target value
    | .error failure => .error (.program failure)
  (outcome, machine.log)

/-- Run the program of an edge and write its result. -/
def runEdge (edge : Edge) : Act Unit := do
  let document := (← get).document
  match document.shape? edge.source, document.shape? edge.target with
  | some source, some target =>
    match ← lookUpProgram number trigger edge.connector with
    | none => throw .noProgram
    | some program =>
      let session ← get
      let (outcome, lines) := session.execute (session.engineAt number) program source target
      Act.change fun session => { session with log := session.log ++ lines }
      match outcome with
      | .ok none => return
      | .ok (some patch) => let _ ← updateShape notify patch
      | .error fault => throw fault
  | _, _ => throw .noEndpoint

/-- Set the marker of a connector, if the connector is still there. -/
def tryMark (connector : String) (marker : Marker) (session : Session) : Session :=
  Act.attempt (setMarker notify connector marker) session

/-- Run a connector unless it is running, and mark the outcome. The answer is whether it succeeded.
-/
def propagate (connector : String) (session : Session) : Bool × Session :=
  let engine := session.engineAt number
  if engine.guard.isRunning connector then (false, session)
  else
    match session.edge? engine connector with
    | none => (false, session)
    | some edge =>
      match engine.guard.enter connector with
      | .error _ => (false, tryMark notify connector .error session)
      | .ok guard =>
        let (outcome, ran) := (runEdge notify number trigger edge).run (session.withGuard number guard)
        let succeeded := outcome.isOk
        let marked := tryMark notify connector (if succeeded then .ok else .error) ran
        (succeeded, marked.withGuard number ((marked.engineAt number).guard.exit connector))

/-- Track a connector no longer. -/
def untrack (connector : String) (session : Session) : Session :=
  session.modifyPropagator number trigger fun propagator => propagator.untrack connector

/-- Track an edge. -/
def track (edge : Edge) (session : Session) : Session :=
  session.modifyPropagator number trigger fun propagator =>
    { propagator with listeners := propagator.listeners.add edge }

/-- See to it that the program of a connector is compiled. -/
def ensureProgram (connector : String) (session : Session) : Session :=
  session.modifyPropagator number trigger fun propagator =>
    { propagator with cache := propagator.cache.ensure connector (session.textOf? connector) }

/-- Whether a connector is tracked under a trigger with its present text. -/
def isSettled (edge : Edge) (session : Session) : Bool :=
  match (session.engineAt number).propagator? trigger with
  | some propagator =>
    propagator.listeners.isActive edge.connector && propagator.cache.isCurrent edge.connector edge.text
  | none => false

/-- Decide anew whether a connector is tracked. A connector that is running is left as it is. Under
a trigger that validates, a connector that is new or has a new text runs once, and is tracked only
if that succeeds. -/
def reconsider (shape : Shape) (session : Session) : Session :=
  let engine := session.engineAt number
  if shape.type ≠ engine.options.connectorType || engine.guard.isRunning shape.id then session
  else
    match session.edgeOf engine shape with
    | none => untrack number trigger shape.id session
    | some edge =>
      if !hasTrigger edge.text trigger then untrack number trigger shape.id session
      else
        let ready := ensureProgram number trigger shape.id session
        if validates trigger && !isSettled number trigger edge session then
          let (succeeded, ran) := propagate notify number trigger shape.id ready
          if succeeded then track number trigger edge ran
          else untrack number trigger shape.id ran
        else track number trigger edge ready

/-- What a propagator does after any change to a connector. -/
def connectorChanged (shape : Shape) (session : Session) : Session :=
  reconsider notify number trigger shape (session.note (.connectorChanged number trigger shape.id))

end Canvasflow.Session
