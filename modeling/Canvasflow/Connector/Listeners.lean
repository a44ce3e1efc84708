import Canvasflow.Connector.Edge
import Canvasflow.Entries

/-!
# Listeners

The connectors that are tracked, in the order in which tracking began, with the edges they had when
they were last seen, and the nodes that are watched: the ends of those edges. The watched nodes are
kept beside the edges and computed anew only when an edge goes away or changes its ends.
-/

namespace Canvasflow.Connector

/-- The tracked connectors with their edges, and the watched nodes. -/
structure Listeners where
  edges : Entries Edge
  watched : List String
  deriving Repr, Inhabited

namespace Listeners

/-- Nothing is tracked. -/
def empty : Listeners :=
  ⟨[], []⟩

/-- The ends of some edges, each once. -/
def endpoints (edges : Entries Edge) : List String :=
  (edges.values.flatMap fun edge => [edge.source, edge.target]).eraseDups

/-- The tracked connectors. -/
def active (listeners : Listeners) : List String :=
  Entries.keys listeners.edges

/-- Whether a connector is tracked. -/
def isActive (listeners : Listeners) (connector : String) : Bool :=
  Entries.has connector listeners.edges

/-- Whether a node is an end of a tracked connector. -/
def isWatched (listeners : Listeners) (node : String) : Bool :=
  listeners.watched.contains node

/-- Track a connector by its edge. -/
def add (listeners : Listeners) (edge : Edge) : Listeners :=
  let edges := Entries.set edge.connector edge listeners.edges
  match Entries.find? edge.connector listeners.edges with
  | some previous =>
    if previous.source = edge.source ∧ previous.target = edge.target then
      ⟨edges, (listeners.watched.insert edge.source).insert edge.target⟩
    else ⟨edges, endpoints edges⟩
  | none => ⟨edges, (listeners.watched.insert edge.source).insert edge.target⟩

/-- Track a connector no longer. -/
def remove (listeners : Listeners) (connector : String) : Listeners :=
  if listeners.isActive connector then
    let edges := Entries.erase connector listeners.edges
    ⟨edges, endpoints edges⟩
  else listeners

end Listeners

end Canvasflow.Connector
