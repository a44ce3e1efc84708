import Canvasflow.CommandLine.Options
import Canvasflow.Frame.Clock
import Canvasflow.Scene.Folder
import Canvasflow.Session.Perform

/-!
# Runs

What a command line does: load a scene, start an engine, apply the assignments, click, let frames
pass, report the page and save it. The first failure ends a run, and what was logged until then
remains. `runIn` does all of this in a folder, with a clock that goes on by the same step at every
frame.
-/

namespace Canvasflow.CommandLine

open Canvasflow.Connector Canvasflow.Page Canvasflow.Scene

/-- Why a run ends early: the scene or an assignment is refused, or something else is wrong. -/
inductive Failure where
  | load (reason : String)
  | assignment (reason : String)
  | fatal
  deriving DecidableEq, Repr

/-- What is said of a failure. -/
def Failure.message : Failure → String
  | load reason => "Could not load scene: " ++ reason
  | assignment reason => "Could not apply --set: " ++ reason
  | fatal => "Fatal error"

/-- Something done in a session that may end the run. -/
abbrev Job := ExceptT Failure (StateM Session)

/-- Carry out a command. -/
def act (asFailure : Session.Fault → Failure) (command : Session.Command) : Job Unit :=
  ExceptT.mk (modifyGet fun session =>
    let (reply, next) := session.perform command
    ((reply.mapError asFailure).map fun _ => (), next))

/-- A defect of a scene is a reason not to load it. -/
def loadFailure : Session.Fault → Failure
  | .scene (.invalid defect) => .load defect.message
  | _ => .fatal

/-- What a document refuses is a reason not to make an assignment. -/
def assignmentFailure : Session.Fault → Failure
  | .page fault => if fault.isUnusable then .fatal else .assignment fault.message
  | _ => .fatal

/-- Load the scene of a source. -/
def load (now : Data) (path : Path) (source : Source) : Job Unit :=
  match Scene.ofSource now source with
  | .ok scene => act loadFailure (.load (.ok scene))
  | .error fault => throw (((fault.message? path).map Failure.load).getD .fatal)

/-- Make an assignment. -/
def assign (assignment : Assignment) : Job Unit :=
  match assignment.patch? with
  | some patch => act assignmentFailure (.update patch)
  | none => throw .fatal

/-- Everything before the first frame. `source` is what is found at the path of the scene. -/
def prepare (now : Data) (options : Options) (source : Source) : Job Unit := do
  match options.file? with
  | some path => load now path source
  | none => pure ()
  act (fun _ => .fatal) (.engine Trigger.all)
  options.assignments.forM assign
  options.clicks.forM fun point => act (fun _ => .fatal) (.input (.press point))

/-- Let a frame pass at the given time. -/
def frameAt (now : Float) (session : Session) : Except Failure Unit × Session :=
  (act (fun _ => .fatal) (.frame now)).run session

/-- Let a number of frames pass, each a step after the last one. -/
def frames (step : Float) (count : Nat) : Job Unit :=
  ExceptT.mk (modifyGet fun session =>
    let next (session : Session) := frameAt (session.clock + step) session
    let (result, clock) := Frame.Clock.deliver next count (.start session)
    (result, clock.target))

/-- The shapes of the page, and the markers of its connectors. -/
def report (document : Document) : Data :=
  let markers := document.pageShapes.filterMap fun shape =>
    (document.marker? shape.id).map fun marker => (shape.id, Data.str marker.name)
  .record [("shapes", .list (document.pageShapes.map Shape.toData)), ("markers", .record markers)]

/-- What a run leaves: its exit code, the errors, the lines that programs logged, the report, and
the scene to save with its path. -/
structure Outcome where
  code : Nat
  errors : List String
  log : List String
  report? : Option Data
  saved? : Option (Path × Scene)

/-- A run that has failed after all. -/
def Outcome.failed (outcome : Outcome) (failure : Failure) : Outcome :=
  { outcome with code := 1, errors := outcome.errors ++ [failure.message], saved? := none }

/-- What a run leaves after its last frame. -/
def conclude (now : Data) (options : Options) : Except Failure Unit × Session → Outcome
  | (.error failure, session) =>
    Outcome.failed ⟨0, [], session.log.toList, none, none⟩ failure
  | (.ok (), session) =>
    let last := (session.perform .dispose).2
    let outcome : Outcome := ⟨0, [], last.log.toList, some (report last.document), none⟩
    match options.save? with
    | none => outcome
    | some path => match toSave? now path .null last.document with
      | none => outcome.failed .fatal
      | some saved => { outcome with saved? := some saved }

/-- What is found at the path of the scene, if there is one. -/
def sourceIn (folder : Folder) (options : Options) : Source :=
  (options.file?.map folder.source).getD .missing

/-- Run in a folder, and store the scene there. -/
def runIn (settings : Settings) (now : Data) (step : Float) (options : Options) (folder : Folder) :
    Outcome × Folder :=
  let job : Job Unit := do
    prepare now options (sourceIn folder options)
    frames step options.ticks.toNat
  let outcome := conclude now options (job.run (Session.blank settings))
  match outcome.saved? with
  | none => (outcome, folder)
  | some (path, scene) => match folder.store path scene.toText with
    | .ok stored => (outcome, stored)
    | .error _ => (outcome.failed .fatal, folder)

end Canvasflow.CommandLine
