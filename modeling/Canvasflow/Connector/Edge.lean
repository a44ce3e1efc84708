import Canvasflow.Page.Shape

/-!
# Edges

A connector with exactly two bindings is an edge between the shapes that they attach. The binding
of its end names the target and the other one names the source; `Edge.of?` resolves a connector. A
graph gathers the edges of some shapes and the nodes that they touch, and `Graph.starts` and
`Graph.ends` are the nodes where no edge ends and where none starts.
-/

namespace Canvasflow.Connector

open Canvasflow.Page

/-- A connector with a direction, and its text. -/
structure Edge where
  connector : String
  source : String
  target : String
  text : String
  deriving DecidableEq, Repr

/-- Whether the edge leads back to its source. -/
def Edge.isLoop (edge : Edge) : Bool :=
  edge.source = edge.target

/-- The bindings that a shape takes part in, as the connector or as the shape that is bound. -/
def involving (id : String) (bindings : List Binding) : List Binding :=
  bindings.filter fun binding => binding.connector = id || binding.target = id

/-- The bindings of a type that attach something to a shape. -/
def boundTo (id type : String) (bindings : List Binding) : List Binding :=
  bindings.filter fun binding => binding.target = id && binding.type = type

/-- The edge of a shape, if it is a connector that takes part in exactly two bindings. -/
def Edge.of? (connectorType : String) (bindings : List Binding) (shape : Shape) : Option Edge :=
  if shape.type = connectorType then
    match involving shape.id bindings with
    | [first, second] =>
      if first.terminal = .finish then some ⟨shape.id, second.target, first.target, shape.text⟩
      else some ⟨shape.id, first.target, second.target, shape.text⟩
    | _ => none
  else none

/-- The connectors that are bound to a shape by the given end. -/
def connectorsAt (terminal : Terminal) (connectorType : String) (bindings : List Binding)
    (node : String) : List String :=
  ((boundTo node connectorType bindings).filter fun binding => binding.terminal = terminal).map
    Binding.connector

/-- The other connectors that start where a connector starts. -/
def siblings (connectorType : String) (bindings : List Binding) (shape : Shape) : List String :=
  if shape.type = connectorType then
    match involving shape.id bindings with
    | [first, second] =>
      match [first, second].find? fun binding => binding.terminal = .start with
      | some binding =>
        (connectorsAt .start connectorType bindings binding.target).filter (· ≠ shape.id)
      | none => []
    | _ => []
  else []

/-- Some edges and the nodes that they touch. -/
structure Graph where
  nodes : List String
  edges : List Edge
  deriving DecidableEq, Repr

namespace Graph

/-- The graph of some edges; its nodes stand in the order in which the edges name them. -/
def ofEdges (edges : List Edge) : Graph where
  nodes := (edges.flatMap fun edge => [edge.source, edge.target]).eraseDups
  edges := edges

/-- The graph of the connectors among some shapes. -/
def ofShapes (connectorType : String) (bindings : List Binding) (shapes : List Shape) : Graph :=
  ofEdges (shapes.filterMap (Edge.of? connectorType bindings))

/-- Whether some edge leads to the node. -/
def isTarget (graph : Graph) (node : String) : Bool :=
  graph.edges.any fun edge => edge.target = node

/-- Whether some edge leads away from the node. -/
def isSource (graph : Graph) (node : String) : Bool :=
  graph.edges.any fun edge => edge.source = node

/-- The nodes that edges only lead away from. -/
def starts (graph : Graph) : List String :=
  graph.nodes.filter fun node => graph.isSource node && !graph.isTarget node

/-- The nodes that edges only lead to. -/
def ends (graph : Graph) : List String :=
  graph.nodes.filter fun node => graph.isTarget node && !graph.isSource node

end Graph

end Canvasflow.Connector
