import Canvasflow.Page.Layout
import Canvasflow.Program.Snapshot
import Canvasflow.Propagation.Engine
import Canvasflow.Scene.Stored

/-!
# Sessions

A session is a document together with those who are told of its changes: engines, and observers
that may fail or answer with a command of their own. Everything that is done to a document in a
session is a `Command`. What happens is told as a `Notice`, which is written down and then handed
to every subscriber of its topic in the order in which they subscribed.
-/

namespace Canvasflow.Session

open Canvasflow.Connector Canvasflow.Geometry Canvasflow.Page Canvasflow.Propagation

/-- Something a user does with a device, perhaps at a point of the page. -/
structure InputEvent where
  device : String
  name : String
  point? : Option (Point Float)

/-- Whether a pointer was pressed. -/
def InputEvent.isPress (event : InputEvent) : Bool :=
  event.device = "pointer" && event.name = "pointer_down"

/-- Press the pointer at a point. -/
def InputEvent.press (point : Point Float) : InputEvent :=
  ⟨"pointer", "pointer_down", some point⟩

/-- What one can subscribe to. -/
inductive Topic where
  | created
  | changed
  | deleted
  | bound
  | unbound
  | input
  | frame
  deriving DecidableEq, Repr

/-- Every topic. -/
def Topic.all : List Topic := [created, changed, deleted, bound, unbound, input, frame]

/-- What has happened, with the shape or binding as it was then. -/
inductive Notice where
  | created (shape : Shape)
  | changed (shape : Shape)
  | deleted (shape : Shape)
  | bound (binding : Binding)
  | unbound (binding : Binding)
  | input (event : InputEvent)
  | frame

/-- The topic of a notice. -/
def Notice.topic : Notice → Topic
  | created _ => .created
  | changed _ => .changed
  | deleted _ => .deleted
  | bound _ => .bound
  | unbound _ => .unbound
  | input _ => .input
  | frame => .frame

/-- The identity or the name of what a notice is about. -/
def Notice.about? : Notice → Option String
  | created shape | changed shape | deleted shape => some shape.id
  | bound binding | unbound binding => some binding.id
  | input event => some event.name
  | frame => none

/-- A line of the record of a session: that a document changed, or that an observer was told. -/
inductive Entry where
  | happened (topic : Topic) (id : String)
  | observed (observer : String) (about? : Option String)
  deriving DecidableEq, Repr

/-- A step of a cascade: that a propagator of an engine was told of a change of a shape or of a
connector, which connectors of an engine are running now that one has begun or ended, or that an
engine failed at a notice. -/
inductive Step where
  | shapeChanged (engine : Nat) (trigger : Trigger) (id : String)
  | connectorChanged (engine : Nat) (trigger : Trigger) (id : String)
  | running (engine : Nat) (connectors : List String)
  | failed (engine : Nat) (topic : Topic) (about? : Option String)
  deriving DecidableEq, Repr

/-- The line that a notice leaves, if it is about a change of the document. -/
def Notice.entry? : Notice → Option Entry
  | created shape => some (.happened .created shape.id)
  | changed shape => some (.happened .changed shape.id)
  | deleted shape => some (.happened .deleted shape.id)
  | bound binding => some (.happened .bound binding.id)
  | unbound binding => some (.happened .unbound binding.id)
  | input _ | frame => none

/-- A call of a propagator by hand. -/
inductive Hook where
  | connectorChanged (id : String)
  | shapeChanged (id : String)
  | connectorDeleted (id : String)
  | input (event : InputEvent)
  | frame
  | propagate (connector : String)

/-- An operation on the programs that a propagator keeps. -/
inductive CacheAction where
  | get (connector : String)
  | set (connector : String)
  | ensure (connector : String)
  | delete (connector : String)
  | clear

/-- What can be done in a session. A scene that is to be loaded may have failed to be read. -/
inductive Command where
  | rest
  | create (new : NewShape)
  | connector (source target text id : String)
  | update (patch : Patch)
  | delete (id : String)
  | bind (connector target : String) (terminal : Terminal) (id : String)
  | connect (connector source target : String)
  | unbind (id : String)
  | mark (id : String) (marker : Marker)
  | look (viewport? : Option (Box Float))
  | input (event : InputEvent)
  | frame (now : Float)
  | load (scene : Except Scene.SceneFault Scene)
  | subscribe (topic : Topic) (name : String) (fails : Bool) (reaction? : Option Command)
  | unsubscribe (name : String)
  | engine (triggers : List Trigger)
  | start
  | dispose
  | standalone (trigger : Trigger)
  | call (trigger : Trigger) (hook : Hook)
  | cache (trigger : Trigger) (action : CacheAction)
  | enter (connector : String)
  | exit (connector : String)

/-- Why something in a session fails. -/
inductive Fault where
  | page (fault : PageFault)
  | geometry (fault : Geometry.Fault)
  | program (failure : Program.Failure)
  | scene (fault : Scene.SceneFault)
  | setup (fault : SetupFault)
  | depth (fault : DepthFault)
  | noEndpoint
  | noProgram
  | resultNotRecord (type : String)
  | noShape
  | gone
  | observer

/-- An observer: its name, what it answers with, and whether it fails then. An observer that answers
does so once. -/
structure Observer where
  topic : Topic
  name : String
  fails : Bool
  reaction? : Option Command

/-- One who is told of something. -/
inductive Subscriber where
  | engine (number : Nat)
  | observer (serial : Nat) (observer : Observer)

end Session

/-- A document with its engines, the subscribers in the order in which they subscribed, the number
of observers so far, the lines recorded and logged, the steps of its cascades with the latest one
first, and the time on the clock. -/
structure Session where
  settings : Settings
  document : Page.Document
  engines : List Propagation.Engine
  subscribers : List (Session.Topic × Session.Subscriber)
  observers : Nat
  journal : Array Session.Entry
  log : Array String
  trail : List Session.Step
  clock : Float
  deriving Inhabited

namespace Session

open Canvasflow.Page Canvasflow.Propagation Canvasflow.Connector

/-- A session with a document of its own and no one who is told of it. -/
def new (settings : Settings) (document : Document) : Session :=
  ⟨settings, document, [], [], 0, #[], #[], [], 0.0⟩

/-- The style of the documents that settings ask for. -/
def styleOf (settings : Settings) : Style :=
  ⟨Settings.textOf settings.connectorType, Settings.textOf settings.okColor,
    Settings.textOf settings.errorColor⟩

/-- A session with an empty document. -/
def blank (settings : Settings) : Session :=
  new settings (.empty (styleOf settings))

/-- What tells the subscribers of something. -/
abbrev Notify := Notice → Session → Session

/-- Something done in a session that may fail; what was done before it failed stays done. -/
abbrev Act := ExceptT Fault (StateM Session)

/-- Fail as a check of the document does. -/
def Act.ofPage {α : Type} (result : Except PageFault α) : Act α :=
  ExceptT.mk (pure (result.mapError Fault.page))

/-- Fail as a measurement does. -/
def Act.ofGeometry {α : Type} (result : Except Geometry.Fault α) : Act α :=
  ExceptT.mk (pure (result.mapError Fault.geometry))

/-- Change the session in a way that cannot fail. -/
def Act.change (step : Session → Session) : Act Unit :=
  modify step

/-- Do something and keep what is left of the session, whether it failed or not. -/
def Act.attempt {α : Type} (act : Act α) (session : Session) : Session :=
  (act.run session).2

/-- The type of the connectors of the document. -/
def connectorType (session : Session) : String :=
  session.document.style.connectorType

/-- The engine of a number. -/
def engineAt (session : Session) (number : Nat) : Engine :=
  session.engines.getD number default

/-- Change the engine of a number. -/
def modifyEngine (session : Session) (number : Nat) (change : Engine → Engine) : Session :=
  { session with engines := session.engines.modify number change }

/-- Add an engine after the others. -/
def withEngine (session : Session) (engine : Engine) : Session :=
  { session with engines := session.engines ++ [engine] }

/-- Put a step on the trail. -/
def note (session : Session) (step : Step) : Session :=
  { session with trail := step :: session.trail }

/-- Replace the guard of an engine, and note which connectors are running now. -/
def withGuard (session : Session) (number : Nat) (guard : Guard) : Session :=
  (session.modifyEngine number fun engine => { engine with guard := guard }).note
    (.running number guard.stack)

/-- Change the document. -/
def withDocument (session : Session) (document : Document) : Session :=
  { session with document := document }

/-- The edge of a shape for an engine. -/
def edgeOf (session : Session) (engine : Engine) (shape : Shape) : Option Edge :=
  Edge.of? engine.options.connectorType session.document.pageBindings shape

/-- The edge of the connector of an identity for an engine, if it has one now. -/
def edge? (session : Session) (engine : Engine) (connector : String) : Option Edge :=
  (session.document.shape? connector).bind (session.edgeOf engine)

/-- The text of a connector, if it is on the page. -/
def textOf? (session : Session) (connector : String) : Option String :=
  (session.document.shape? connector).map Shape.text

/-- The subscribers of a topic. -/
def subscribersOf (session : Session) (topic : Topic) : List Subscriber :=
  (session.subscribers.filter fun entry => entry.1 = topic).map Prod.snd

/-- Write down a line. -/
def record (session : Session) (entry : Entry) : Session :=
  { session with journal := session.journal.push entry }

/-- Write down what a notice leaves. -/
def recordNotice (session : Session) (notice : Notice) : Session :=
  match notice.entry? with
  | some entry => session.record entry
  | none => session

end Session

end Canvasflow
