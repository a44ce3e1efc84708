import Canvasflow.Session.Run

/-!
# Reactions of engines

What an engine does when it is told of something. It brings its index up to date first, then lets
every propagator run the connectors that the notice triggers, and then looks at the connectors that
changed. Bringing the index up to date can fail, and then the rest is left out.
-/

namespace Canvasflow.Session

open Canvasflow.Connector Canvasflow.Geometry Canvasflow.Page Canvasflow.Propagation

variable (notify : Notify) (number : Nat)

/-- Store the index of an engine. -/
def withIndex (session : Session) (number : Nat) (index : GridIndex Float) : Session :=
  session.modifyEngine number fun engine => { engine with index? := some index }

/-- Bring the box of one shape in the index up to date. -/
def indexOne (id : String) : Act Unit := do
  let session ← get
  match (session.engineAt number).index? with
  | none => return
  | some index =>
    match ← Act.ofGeometry (session.document.bounds? id) with
    | none => Act.change fun session => session.withIndex number (index.remove id)
    | some box =>
      let (next, outcome) := index.insert id box
      Act.change fun session => session.withIndex number next
      match outcome with
      | .ok () => return
      | .error fault => throw (.geometry (.cell fault))

/-- Bring the boxes of a shape and of everything inside it up to date, to the given depth. -/
def indexTree : Nat → String → Act Unit
  | 0, _ => throw (.geometry .nestedTooDeeply)
  | depth + 1, id => do
    indexOne number id
    let document := (← get).document
    (document.children id).forM fun child => do
      if (document.shape? child).isSome then indexTree depth child

/-- Bring the boxes of a shape and of everything inside it up to date. -/
def indexShape (id : String) : Act Unit := do
  indexTree number ((← get).document.shapes.length + 1) id

/-- Run the connectors of a list that are tracked when their turn comes and pass a test then. -/
def runEach (trigger : Trigger) (fires : Session → String → Bool) (connectors : List String)
    (session : Session) : Session :=
  connectors.foldl (fun session connector =>
    if (session.engineAt number).tracks trigger connector && fires session connector then
      (propagate notify number trigger connector session).2
    else session) session

/-- Run the connectors of a list that are tracked when their turn comes, each once. `ran` holds
those that have run. -/
def runOnce (trigger : Trigger) (ran : List String) : List String → Session → Session
  | [], session => session
  | connector :: rest, session =>
    if (session.engineAt number).tracks trigger connector && !ran.contains connector then
      runOnce trigger (connector :: ran) rest (propagate notify number trigger connector session).2
    else runOnce trigger ran rest session

/-- Whether a connector has two bindings that lead to different shapes. -/
def joinsTwo (session : Session) (connector : String) : Bool :=
  match involving connector session.document.pageBindings with
  | [first, second] => first.target ≠ second.target
  | _ => false

/-- The connectors that start at a shape. -/
def connectorsFrom (session : Session) (engine : Engine) (node : String) : List String :=
  connectorsAt .start engine.options.connectorType session.document.pageBindings node

/-- Run the connectors that a change of a shape triggers. -/
def runAffected (trigger : Trigger) (shape : Shape) (session : Session) : Session :=
  let engine := session.engineAt number
  match trigger with
  | .change =>
    if engine.watches .change shape.id then
      runEach notify number .change joinsTwo (session.connectorsFrom engine shape.id) session
    else session
  | .spatial =>
    if shape.type = engine.options.connectorType then session
    else runEach notify number .spatial (fun _ _ => true) (engine.tracked .spatial) session
  | .click | .tick => session

/-- What a propagator does after a change of a shape. -/
def afterChange (trigger : Trigger) (shape : Shape) (session : Session) : Session :=
  runAffected notify number trigger shape (session.note (.shapeChanged number trigger shape.id))

/-- What a propagator does on an event of a user. -/
def afterInput (trigger : Trigger) (event : InputEvent) : Act Unit := do
  if trigger = .click && event.isPress then
    let session ← get
    let engine := session.engineAt number
    let hit ← Act.ofGeometry (session.document.shapeAt
      (fun shape => engine.options.clickTargets.contains shape.type) session.document.pointer)
    match hit with
    | none => return
    | some shape =>
      if engine.watches .click shape.id then
        Act.change (runOnce notify number .click [] (session.connectorsFrom engine shape.id))

/-- What a propagator does on a frame. -/
def afterFrame (trigger : Trigger) (session : Session) : Session :=
  if trigger = .tick then
    runEach notify number .tick (fun _ _ => true) ((session.engineAt number).tracked .tick) session
  else session

/-- Let every propagator of an engine do something, in order. -/
def eachPropagator (act : Trigger → Session → Session) (session : Session) : Session :=
  (session.engineAt number).triggers.foldl (fun session trigger => act trigger session) session

/-- What the propagators of an engine do after a change of a group, for a shape directly inside it.
-/
def innerChanged (id : String) (session : Session) : Session :=
  match session.document.shape? id with
  | none => session
  | some shape => eachPropagator number (fun trigger => afterChange notify number trigger shape) session

/-- What a propagator does after a change of a shape that is not a group. -/
def outerChanged (connectorType : String) (shape : Shape) (trigger : Trigger) (session : Session) :
    Session :=
  let after := afterChange notify number trigger shape session
  if shape.type = connectorType then connectorChanged notify number trigger shape after else after

/-- What the propagators of an engine do after a change of a shape. A change of a group counts as
one of every shape directly inside it. -/
def spread (shape : Shape) (session : Session) : Session :=
  let options := (session.engineAt number).options
  if shape.type = options.groupType then
    (session.document.children shape.id).foldl (fun session child =>
      innerChanged notify number child session) session
  else eachPropagator number (outerChanged notify number options.connectorType shape) session

/-- What an engine does after a change of a shape. -/
def engineChanged (shape : Shape) : Act Unit := do
  indexShape number shape.id
  Act.change (spread notify number shape)

/-- Take a shape out of the index of an engine. -/
def unindexShape (id : String) (session : Session) : Session :=
  match (session.engineAt number).index? with
  | none => session
  | some index => session.withIndex number (index.remove id)

/-- What an engine does after the deletion of a shape. -/
def engineDeleted (shape : Shape) (session : Session) : Session :=
  let cleared := unindexShape number shape.id session
  if shape.type = (session.engineAt number).options.connectorType then
    eachPropagator number (fun trigger => untrack number trigger shape.id) cleared
  else cleared

/-- What an engine does after a change of a binding. -/
def engineRebound (binding : Binding) (session : Session) : Session :=
  let connectorType := (session.engineAt number).options.connectorType
  if binding.type ≠ connectorType then session
  else
    match session.document.shape? binding.connector with
    | none => session
    | some shape =>
      if shape.type ≠ connectorType then session
      else eachPropagator number (fun trigger => connectorChanged notify number trigger shape) session

/-- What an engine does when it is told of something. -/
def engineReacts : Notice → Act Unit
  | .created shape => indexShape number shape.id
  | .changed shape => engineChanged notify number shape
  | .deleted shape => Act.change (engineDeleted number shape)
  | .bound binding | .unbound binding => Act.change (engineRebound notify number binding)
  | .input event => do
    ((← get).engineAt number).triggers.forM fun trigger => afterInput notify number trigger event
  | .frame => Act.change fun session =>
    eachPropagator number (afterFrame notify number) (session.modifyEngine number fun engine =>
      { engine with timer := engine.timer.tick session.clock })

/-- Decide for every connector among some shapes whether the propagators of an engine track it. -/
def classifyAll (shapes : List Shape) (session : Session) : Session :=
  let connectorType := (session.engineAt number).options.connectorType
  let connectors := shapes.filter fun shape => shape.type = connectorType
  eachPropagator number (fun trigger session =>
    connectors.foldl (fun session shape => connectorChanged notify number trigger shape session)
      session) session

/-- Let an engine be told of everything from now on. -/
def attend (session : Session) : Session :=
  let running := session.modifyEngine number fun engine => { engine with running := true }
  { running with
    subscribers := running.subscribers ++ Topic.all.map fun topic => (topic, .engine number) }

/-- Start an engine: index the page, look at every connector, and subscribe to everything. -/
def startEngine : Act Unit := do
  let session ← get
  if (session.engineAt number).running then return
  let shapes := session.document.pageShapes
  shapes.forM fun shape => indexShape number shape.id
  Act.change fun session => attend number (classifyAll notify number shapes session)

/-- Whether a subscriber is the engine of a number. -/
def Subscriber.isEngine (number : Nat) : Subscriber → Bool
  | .engine other => other == number
  | .observer .. => false

/-- Stop an engine: it is told of nothing any more and forgets what it tracked. -/
def disposeEngine (session : Session) : Session :=
  let silent := { session with
    subscribers := session.subscribers.filter fun entry => !entry.2.isEngine number }
  silent.modifyEngine number fun engine =>
    { engine with
      running := false
      index? := engine.index?.map GridIndex.clear
      propagators := engine.propagators.map Propagator.reset }

end Canvasflow.Session
