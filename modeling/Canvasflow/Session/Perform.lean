import Canvasflow.Session.React

/-!
# Commands

How commands are carried out and subscribers told. A notice is written down and handed to everyone
who is subscribed to its topic at that moment; what a subscriber fails at is its own affair.
Subscribers may change the document, which sends further notices while the first is still being
handed out. `notifyWithin` follows such notices to a given depth, and `Session.perform` carries out
a command to a depth that no cascade exceeds: a run of a connector is one of at most as many as the
guards let run at a time, a mark without a run changes the colour of a connector that had another
one, and an observer answers once.
-/

namespace Canvasflow.Session

open Canvasflow.Connector Canvasflow.Geometry Canvasflow.Page Canvasflow.Program Canvasflow.Propagation

/-- What a command answers. -/
inductive Reply where
  | done
  | id (id : String)
  | shape (shape : Shape)
  | binding (binding : Binding)
  | bindings (bindings : List Binding)
  | pointer (point : Point Float)
  | triggers (triggers : List Trigger)
  | outcome (succeeded : Bool)
  | program (program? : Option Compiled)
  | noPropagator

section Commands

variable (notify : Notify)

/-- Subscribe an observer to a topic. -/
def subscribe (observer : Observer) (session : Session) : Session :=
  { session with
    subscribers := session.subscribers ++ [(observer.topic, .observer session.observers observer)]
    observers := session.observers + 1 }

/-- Whether a subscriber is the observer of a serial number. -/
def Subscriber.isObserver (serial : Nat) : Subscriber → Bool
  | .observer other _ => other == serial
  | .engine _ => false

/-- Unsubscribe the observer of a serial number. -/
def dismiss (serial : Nat) (session : Session) : Session :=
  { session with
    subscribers := session.subscribers.filter fun entry => !entry.2.isObserver serial }

/-- The serial number of the latest observer of a name. -/
def serialOf? (session : Session) (name : String) : Option Nat :=
  session.subscribers.foldl (fun found entry =>
    match entry.2 with
    | .observer serial observer =>
      if observer.name = name then some (max serial (found.getD 0)) else found
    | .engine _ => found) none

/-- Unsubscribe the latest observer of a name. -/
def unsubscribe (name : String) (session : Session) : Session :=
  match session.serialOf? name with
  | some serial => dismiss serial session
  | none => session

/-- The number of the latest engine that passes a test. -/
def latest? (session : Session) (test : Engine → Bool) : Option Nat :=
  (List.range session.engines.length).reverse.find? fun number => test (session.engineAt number)

/-- The latest engine that has not been left on its own. -/
def current? (session : Session) : Option Nat :=
  session.latest? fun engine => engine.index?.isSome

/-- The latest engine with a propagator for a trigger. -/
def holder? (session : Session) (trigger : Trigger) : Option Nat :=
  session.latest? fun engine => (engine.propagator? trigger).isSome

/-- Call a propagator by hand. -/
def callHook (number : Nat) (trigger : Trigger) (hook : Hook) : Act Reply := do
  let session ← get
  match hook with
  | .connectorChanged id => match session.document.shape? id with
    | none => throw .noShape
    | some shape =>
      Act.change (connectorChanged notify number trigger shape)
      return .done
  | .shapeChanged id => match session.document.shape? id with
    | none => if trigger = .change || trigger = .spatial then throw .noShape else return .done
    | some shape =>
      Act.change (afterChange notify number trigger shape)
      return .done
  | .connectorDeleted id =>
    Act.change (untrack number trigger id)
    return .done
  | .input event =>
    afterInput notify number trigger event
    return .done
  | .frame =>
    Act.change (afterFrame notify number trigger)
    return .done
  | .propagate connector =>
    let (succeeded, next) := propagate notify number trigger connector session
    set next
    return .outcome succeeded

/-- Do something with the programs that a propagator keeps. -/
def useCache (number : Nat) (trigger : Trigger) (action : CacheAction) : Act Reply := do
  let session ← get
  match (session.engineAt number).propagator? trigger with
  | none => return .noPropagator
  | some propagator =>
    let cache := propagator.cache
    let (reply, next) := match action with
      | .get connector =>
        let (program?, next) := cache.get connector (session.textOf? connector)
        (Reply.program program?, next)
      | .set connector =>
        let (program?, next) := cache.renew connector (session.textOf? connector)
        (Reply.program program?, next)
      | .ensure connector => (Reply.done, cache.ensure connector (session.textOf? connector))
      | .delete connector => (Reply.done, cache.delete connector)
      | .clear => (Reply.done, cache.clear)
    Act.change fun session => session.modifyPropagator number trigger fun propagator =>
      { propagator with cache := next }
    return reply

/-- Build an engine and start it. An engine whose start fails is there, but not running. -/
def buildEngine (triggers : List Trigger) : Act Reply := do
  let session ← get
  match Engine.build session.settings triggers with
  | .error fault => throw (.setup fault)
  | .ok engine =>
    Act.change fun session => session.withEngine engine
    startEngine notify session.engines.length
    return .triggers engine.triggers

/-- Carry out a command. Shapes are deleted with what is inside them to the given depth. -/
def carryOut (depth : Nat) : Command → Act Reply
  | .rest => return .done
  | .create new => do return .id (← createShape notify new).id
  | .connector source target text id => do
    return .id (← createConnector notify source target text id).id
  | .update patch => do return .shape (← updateShape notify patch)
  | .delete id => do
    deleteShape notify depth id
    return .done
  | .bind connector target terminal id => do
    return .binding (← createBinding notify connector target terminal id)
  | .connect connector source target => do
    return .bindings (← connect notify connector source target)
  | .unbind id => do
    deleteBinding notify id
    return .done
  | .mark id marker => do
    setMarker notify id marker
    return .done
  | .look viewport? => do
    Act.change fun session => session.withDocument { session.document with viewport? := viewport? }
    return .done
  | .input event => do
    takeInput notify event
    return .pointer (← get).document.pointer
  | .frame now => do
    Act.change fun session => { session with clock := now }
    passFrame notify
    return .done
  | .load scene => do
    match scene with
    | .error fault => throw (.scene fault)
    | .ok scene =>
      applyScene notify scene
      return .done
  | .subscribe topic name fails reaction? => do
    Act.change (subscribe ⟨topic, name, fails, reaction?⟩)
    return .done
  | .unsubscribe name => do
    Act.change (unsubscribe name)
    return .done
  | .engine triggers => buildEngine notify triggers
  | .start => do
    match (← get).current? with
    | none => return .done
    | some number =>
      startEngine notify number
      return .done
  | .dispose => do
    match (← get).current? with
    | none => return .done
    | some number =>
      Act.change (disposeEngine number)
      return .done
  | .standalone trigger => do
    Act.change fun session =>
      session.withEngine (.idle (.ofSettings session.settings) none [trigger])
    return .triggers [trigger]
  | .call trigger hook => do
    match (← get).holder? trigger with
    | none => return .noPropagator
    | some number => callHook notify number trigger hook
  | .cache trigger action => do
    match (← get).holder? trigger with
    | none => return .noPropagator
    | some number => useCache number trigger action
  | .enter connector => do
    match (← get).current? with
    | none => return .done
    | some number =>
      match ((← get).engineAt number).guard.enter connector with
      | .ok guard =>
        Act.change fun session => session.withGuard number guard
        return .done
      | .error fault => throw (.depth fault)
  | .exit connector => do
    match (← get).current? with
    | none => return .done
    | some number =>
      Act.change fun session =>
        session.withGuard number ((session.engineAt number).guard.exit connector)
      return .done

/-- Tell a subscriber of a notice. That an engine fails is noted. -/
def tell (depth : Nat) (notice : Notice) (session : Session) : Subscriber → Session
  | .engine number => match (engineReacts notify number notice).run session with
    | (.ok (), told) => told
    | (.error _, told) => told.note (.failed number notice.topic notice.about?)
  | .observer serial observer =>
    let told := session.record (.observed observer.name notice.about?)
    match observer.reaction? with
    | none => told
    | some command => Act.attempt (carryOut notify depth command) (dismiss serial told)

/-- Write a notice down, and hand it to everyone who is subscribed to its topic now. -/
def handOut (depth : Nat) (notice : Notice) (session : Session) : Session :=
  let recorded := session.recordNotice notice
  (recorded.subscribersOf notice.topic).foldl (tell notify depth notice) recorded

end Commands

/-- Hand out a notice, and the notices that follow from it to the given depth. Observers that answer
delete shapes to the depth `span`. -/
def notifyWithin (span : Nat) : Nat → Notify
  | 0 => fun notice session => session.recordNotice notice
  | depth + 1 => handOut (notifyWithin span depth) span

/-- How many shapes, engines and observers a command and the answers to it may add, where an engine
counts as often as it lets connectors run at a time. -/
def weight (limit : Nat) : Command → Nat
  | .subscribe _ _ _ (some reaction) => weight limit reaction + 1
  | .load (.ok scene) => scene.shapes.length + 1
  | .engine _ | .standalone _ => limit + 1
  | _ => 1

/-- How many runs may be nested by the guards of the engines. -/
def runLimit (session : Session) : Nat :=
  session.engines.foldr (fun engine rest => engine.guard.limit.toNat + rest) 0

/-- The weight of what the observers may still answer. -/
def pending (limit : Nat) (session : Session) : Nat :=
  session.subscribers.foldr (fun entry rest => match entry.2 with
    | .observer _ ⟨_, _, _, some reaction⟩ => weight limit reaction + rest
    | _ => rest) 0

/-- A depth that no cascade set off by a command exceeds. -/
def room (session : Session) (command : Command) : Nat :=
  let limit := (Settings.countOf session.settings.maxCascadeDepth).toNat
  let added := weight limit command + session.pending limit
  (session.runLimit + added + 1) * (session.document.shapes.length + added + 2)

/-- Carry out a command. What was done before a command failed stays done. -/
def perform (session : Session) (command : Command) : Except Fault Reply × Session :=
  let depth := session.room command
  (carryOut (notifyWithin depth depth) depth command).run session

end Canvasflow.Session
