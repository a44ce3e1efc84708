import Canvasflow.Session.Perform

/-!
# Scripts

Commands written as records of plain data. The field `do` names the command and the others are its
arguments; what a command does not need is ignored, and what is left out has its default. A
reaction is a command inside a command. A record that names no command is a command that does
nothing.
-/

namespace Canvasflow.Session

open Canvasflow.Connector Canvasflow.Geometry Canvasflow.Page

namespace Script

/-- An argument, or null. -/
def argument (fields : Entries Data) (key : String) : Data :=
  (Entries.find? key fields).getD .null

/-- An argument that is neither left out nor null. -/
def given? (fields : Entries Data) (key : String) : Option Data :=
  match argument fields key with
  | .null => none
  | value => some value

/-- A text, which is empty when it is left out. -/
def text (fields : Entries Data) (key : String) : String :=
  ((argument fields key).text?).getD ""

/-- A record, which is empty when it is left out. -/
def record (fields : Entries Data) (key : String) : Entries Data :=
  ((argument fields key).fields?).getD []

/-- A number, or what is not one. -/
def number (value : Data) : Float :=
  Settings.measureOf value

/-- A point by its coordinates. -/
def point? : Data → Option (Point Float)
  | .list [x, y] => some ⟨number x, number y⟩
  | _ => none

/-- A box by its corner and its sides. -/
def box? : Data → Option (Box Float)
  | .list [x, y, w, h] => some ⟨number x, number y, number w, number h⟩
  | _ => none

/-- A trigger by its name. -/
def trigger? (value : Data) : Option Trigger :=
  value.text?.bind Trigger.ofName?

/-- A coordinate of a new shape. -/
def coordinate (fields : Entries Data) (key : String) : Data :=
  (Entries.find? key fields).getD (.double 0.0)

/-- A topic by the name of what happens. -/
def topicNames : List (String × Topic) :=
  [("create", .created), ("change", .changed), ("delete", .deleted), ("bind", .bound),
    ("unbind", .unbound), ("event", .input), ("tick", .frame)]

/-- The name of a topic. -/
def topicName (topic : Topic) : String :=
  ((topicNames.find? fun entry => entry.2 = topic).map Prod.fst).getD ""

/-- An event by its device, its name and perhaps its point. -/
def event (device name point : Data) : InputEvent :=
  ⟨(device.text?).getD "", (name.text?).getD "", point? point⟩

/-- The call of a propagator that a record describes. -/
def hook (fields : Entries Data) : Hook :=
  let id := text fields "id"
  match text fields "fn" with
  | "on_connector_change" => .connectorChanged id
  | "after_change" => .shapeChanged id
  | "on_connector_delete" => .connectorDeleted id
  | "on_event" => match argument fields "event" with
    | .list [device, name, point] => .input (event device name point)
    | .list [device, name] => .input (event device name .null)
    | _ => .input ⟨"", "", none⟩
  | "on_tick" => .frame
  | _ => .propagate id

/-- The operation on a cache that a record describes. -/
def cacheAction? (fields : Entries Data) : Option CacheAction :=
  let id := text fields "id"
  match text fields "fn" with
  | "get" => some (.get id)
  | "set" => some (.set id)
  | "ensure" => some (.ensure id)
  | "delete" => some (.delete id)
  | "clear" => some .clear
  | _ => none

/-- The new shape that a record describes. -/
def newShape (fields : Entries Data) : NewShape where
  type := text fields "type"
  x := coordinate fields "x"
  y := coordinate fields "y"
  rotation := coordinate fields "rotation"
  parent := argument fields "parent"
  props := record fields "props"
  metadata := record fields "meta"
  id := text fields "id"

/-- The patch that a record describes. -/
def patch (fields : Entries Data) : Patch where
  id := text fields "id"
  type? := (argument fields "type").text?
  x? := given? fields "x"
  y? := given? fields "y"
  rotation? := given? fields "rotation"
  props? := given? fields "props"
  metadata? := given? fields "meta"

/-- The command that the fields of a record describe, with the reaction that is among them. Nothing
stands for an end or a marker that does not exist. -/
def command? (now : Data) (fields : Entries Data) (reaction? : Option Command) : Option Command :=
  let id := text fields "id"
  let trigger := (trigger? (argument fields "kind")).getD .change
  match text fields "do" with
  | "create" => some (.create (newShape fields))
  | "connector" =>
    some (.connector (text fields "a") (text fields "b") (text fields "text") id)
  | "update" => some (.update (patch fields))
  | "delete" => some (.delete id)
  | "unbind" => some (.unbind id)
  | "bind" => do
    let terminal ← Terminal.ofName? (text fields "terminal")
    return .bind (text fields "connector") (text fields "shape") terminal id
  | "connect" => some (.connect (text fields "connector") (text fields "a") (text fields "b"))
  | "marker" => do return .mark id (← Marker.ofName? (text fields "marker"))
  | "viewport" => some (.look (box? (argument fields "box")))
  | "event" => some (.input (event (argument fields "type") (argument fields "name")
      (argument fields "point")))
  | "click" => some (.input (.press ⟨number (argument fields "x"), number (argument fields "y")⟩))
  | "tick" => some (.frame (match given? fields "now" with
    | some time => number time
    | none => 0.0))
  | "load" => some (.load (Scene.ofData now (argument fields "scene")))
  | "subscribe" => some (.subscribe ((topicNames.lookup (text fields "event")).getD .frame)
      (text fields "name") (!(argument fields "fail").isBlank) reaction?)
  | "unsubscribe" => some (.unsubscribe (text fields "name"))
  | "engine" => some (.engine (match argument fields "kinds" with
    | .list kinds => kinds.filterMap trigger?
    | _ => Trigger.all))
  | "start" => some .start
  | "dispose" => some .dispose
  | "standalone" => some (.standalone trigger)
  | "call" => some (.call trigger (hook fields))
  | "cache" => some (((cacheAction? fields).map (.cache trigger)).getD .rest)
  | "guard" => some (match text fields "fn" with
    | "enter" => .enter id
    | "exit" => .exit id
    | _ => .rest)
  | _ => some .rest

mutual

/-- The command that a record describes. -/
def read? (now : Data) : Data → Option Command
  | .record fields => command? now fields (reaction? now fields)
  | _ => some .rest

/-- The reaction among the fields of a record, if there is one. A reaction that cannot be read does
nothing. -/
def reaction? (now : Data) : List (String × Data) → Option Command
  | [] => none
  | (key, value) :: rest =>
    if key = "do_" then
      match value with
      | .null => none
      | value => some ((read? now value).getD .rest)
    else reaction? now rest

end

end Script

end Canvasflow.Session
