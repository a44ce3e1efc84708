import Canvasflow.Session.Basic

/-!
# Reports

What a session looks like, as named entries of plain data, and the entries that differ between two
reports. Coordinates of boxes are given to the millionth.
-/

namespace Canvasflow.Session

open Canvasflow.Connector Canvasflow.Geometry Canvasflow.Page Canvasflow.Propagation Canvasflow.Program

/-- Some texts as data. -/
def texts (items : List String) : Data :=
  .list (items.map Data.str)

/-- A binding as data. -/
def bindingData (binding : Binding) : Data :=
  texts [binding.id, binding.connector, binding.target, binding.terminal.name, binding.type]

/-- A compiled program as data. -/
def programData (program : Compiled) : Data :=
  .record [("grammar", .str program.grammar.name), ("source", .str program.source),
    ("max_steps", .int program.maxSteps)]

/-- A box as data. -/
def boxData (box : Box Float) : Data :=
  .list ([box.x, box.y, box.w, box.h].map fun side => .double (toMillionths side))

/-- The entries of a propagator: the nodes that it watches, and its programs of shapes on the page.
-/
def propagatorEntries (document : Document) (propagator : Propagator) : Entries Data :=
  let name := propagator.trigger.name
  let programs := propagator.cache.entries.filter fun entry => (document.shape? entry.1).isSome
  ("watched " ++ name, texts (propagator.listeners.watched.mergeSort)) ::
    programs.map fun entry => ("cache " ++ name ++ " " ++ entry.1,
      texts [entry.2.text, if entry.2.program?.isSome then "ok" else "failed"])

/-- The entries of an engine with an index. -/
def engineEntries (engine : Engine) : Entries Data :=
  match engine.index? with
  | none => []
  | some index =>
    [("status", .record (engine.propagators.map fun propagator =>
        (propagator.trigger.name.toLower, texts propagator.listeners.active))),
      ("running", .list [.bool engine.running, .int engine.guard.depth, .int index.size])] ++
    index.boxes.map fun entry => ("indexed " ++ entry.1, boxData entry.2.box)

/-- The entries of a document. -/
def documentEntries (document : Document) : Entries Data :=
  [("order", texts (document.pageShapes.map Shape.id)),
    ("bindings", texts (document.pageBindings.map Binding.id))] ++
  document.pageShapes.map (fun shape => ("shape " ++ shape.id, shape.toData)) ++
  document.pageBindings.map (fun binding => ("binding " ++ binding.id, bindingData binding)) ++
  document.markers.map fun entry => ("marker " ++ entry.1, .str entry.2.name)

/-- What a session looks like. -/
def report (session : Session) : Entries Data :=
  documentEntries session.document ++ session.engines.flatMap fun engine =>
    engineEntries engine ++ engine.propagators.flatMap (propagatorEntries session.document)

/-- The entries of a report that an earlier one has not or has otherwise, by their texts, and null
for those that have gone. -/
def differences (before after : Entries Data) : Entries Data :=
  let old := Std.HashMap.ofList (before.map fun entry => (entry.1, Json.write entry.2))
  let new := Std.HashMap.ofList (after.map fun entry => (entry.1, Json.write entry.2))
  after.filter (fun entry => old[entry.1]? != new[entry.1]?) ++
    (before.filter fun entry => !new.contains entry.1).map fun entry => (entry.1, .null)

end Canvasflow.Session
