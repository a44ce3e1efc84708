import Canvasflow.Proofs.Connector.Listeners
import Mathlib.Data.Fintype.EquivFin
import Mathlib.Logic.Relation
import Mathlib.Order.WellFounded

/-!
# Starts and ends of a graph

The nodes of the graph of some shapes are the ends of its edges, each once. Its starts are the nodes
that no edge leads to and its ends those that no edge leads away from. `ofShapes_sorted` states this
for all shapes, with parallel edges and loops among them, and says that a graph with an edge and no
circle of edges has a start and an end.
-/

namespace Canvasflow.Connector

/-- What is left when repetitions are dropped does not repeat. -/
theorem nodup_eraseDups (items : List String) : items.eraseDups.Nodup := by
  cases items with
  | nil => exact List.nodup_nil
  | cons item rest =>
    rw [List.eraseDups_cons, List.nodup_cons]
    exact ⟨by simp [List.mem_eraseDups], nodup_eraseDups _⟩
termination_by items.length
decreasing_by exact Nat.lt_succ_of_le (List.length_filter_le _ rest)

namespace Graph

open Canvasflow.Page

variable {graph : Graph} {node other : String}

/-- Whether some edge leads from one node to the other. -/
def Leads (graph : Graph) (node other : String) : Prop :=
  ∃ edge ∈ graph.edges, edge.source = node ∧ edge.target = other

/-- Whether no way along the edges comes back to where it starts. -/
def Acyclic (graph : Graph) : Prop :=
  ∀ node, ¬ Relation.TransGen graph.Leads node node

/-- A graph whose nodes are the ends of its edges, each once. -/
structure Sound (graph : Graph) : Prop where
  distinct : graph.nodes.Nodup
  mem_nodes : ∀ node, node ∈ graph.nodes ↔ ∃ edge ∈ graph.edges, edge.Touches node

theorem ofEdges_sound (edges : List Edge) : (ofEdges edges).Sound where
  distinct := nodup_eraseDups _
  mem_nodes node := by simp [ofEdges, List.mem_eraseDups, Edge.Touches]

theorem isSource_iff : graph.isSource node = true ↔ ∃ edge ∈ graph.edges, edge.source = node := by
  simp [isSource]

theorem isTarget_iff : graph.isTarget node = true ↔ ∃ edge ∈ graph.edges, edge.target = node := by
  simp [isTarget]

/-- On finitely many nodes, a relation without a circle leaves a node that nothing leads to. -/
theorem exists_first {nodes : List String} (leads : String → String → Prop) (hnodes : nodes ≠ [])
    (hmem : ∀ {node other : String}, leads node other → node ∈ nodes)
    (hacyclic : ∀ node, ¬ Relation.TransGen leads node node) :
    ∃ node ∈ nodes, ∀ other, ¬ leads other node := by
  let before (a b : {node // node ∈ nodes}) : Prop := Relation.TransGen leads a.1 b.1
  have htrans : IsTrans _ before := ⟨fun _ _ _ => Relation.TransGen.trans⟩
  have hirrefl : Std.Irrefl before := ⟨fun node => hacyclic node.1⟩
  have hfounded : WellFounded before := Finite.wellFounded_of_trans_of_irrefl before
  obtain ⟨⟨node, hnode⟩, -, hfirst⟩ :=
    hfounded.has_min Set.univ ⟨⟨nodes.head hnodes, List.head_mem hnodes⟩, trivial⟩
  exact ⟨node, hnode, fun other hleads => hfirst ⟨other, hmem hleads⟩ trivial (.single hleads)⟩

/-- No node is both a start and an end. -/
theorem disjoint_starts_ends (graph : Graph) : List.Disjoint graph.starts graph.ends := by
  intro node hstart hend
  simp only [starts, ends, List.mem_filter, Bool.and_eq_true, Bool.not_eq_true'] at hstart hend
  rw [hstart.2.1] at hend
  cases hend.2.2

namespace Sound

/-- The starts are the nodes that no edge leads to. -/
theorem mem_starts_iff (h : graph.Sound) :
    node ∈ graph.starts ↔ node ∈ graph.nodes ∧ ∀ edge ∈ graph.edges, edge.target ≠ node := by
  have htarget : graph.isTarget node = false ↔ ∀ edge ∈ graph.edges, edge.target ≠ node := by
    rw [← Bool.not_eq_true, isTarget_iff]
    simp
  simp only [starts, List.mem_filter, Bool.and_eq_true, Bool.not_eq_true', htarget, isSource_iff]
  refine and_congr_right fun hnode => and_iff_right_of_imp fun hnone => ?_
  obtain ⟨edge, hedge, hsource | htarget⟩ := (h.mem_nodes node).mp hnode
  · exact ⟨edge, hedge, hsource.symm⟩
  · exact absurd htarget.symm (hnone edge hedge)

/-- The ends are the nodes that no edge leads away from. -/
theorem mem_ends_iff (h : graph.Sound) :
    node ∈ graph.ends ↔ node ∈ graph.nodes ∧ ∀ edge ∈ graph.edges, edge.source ≠ node := by
  have hsource : graph.isSource node = false ↔ ∀ edge ∈ graph.edges, edge.source ≠ node := by
    rw [← Bool.not_eq_true, isSource_iff]
    simp
  simp only [ends, List.mem_filter, Bool.and_eq_true, Bool.not_eq_true', hsource, isTarget_iff]
  refine and_congr_right fun hnode => and_iff_right_of_imp fun hnone => ?_
  obtain ⟨edge, hedge, hsource | htarget⟩ := (h.mem_nodes node).mp hnode
  · exact absurd hsource.symm (hnone edge hedge)
  · exact ⟨edge, hedge, htarget.symm⟩

theorem nodes_ne_nil (h : graph.Sound) (hedges : graph.edges ≠ []) : graph.nodes ≠ [] := by
  obtain ⟨edge, hedge⟩ := List.exists_mem_of_ne_nil _ hedges
  exact List.ne_nil_of_mem ((h.mem_nodes edge.source).mpr ⟨edge, hedge, .inl rfl⟩)

/-- Going back along edges ends at a start. -/
theorem starts_ne_nil (h : graph.Sound) (hedges : graph.edges ≠ []) (hacyclic : graph.Acyclic) :
    graph.starts ≠ [] := by
  obtain ⟨node, hnode, hfirst⟩ := exists_first graph.Leads (h.nodes_ne_nil hedges)
    (fun ⟨edge, hedge, hsource, _⟩ => (h.mem_nodes _).mpr ⟨edge, hedge, .inl hsource.symm⟩) hacyclic
  refine List.ne_nil_of_mem (h.mem_starts_iff.mpr ⟨hnode, fun edge hedge htarget => ?_⟩)
  exact hfirst edge.source ⟨edge, hedge, rfl, htarget⟩

/-- Going forward along edges ends at an end. -/
theorem ends_ne_nil (h : graph.Sound) (hedges : graph.edges ≠ []) (hacyclic : graph.Acyclic) :
    graph.ends ≠ [] := by
  obtain ⟨node, hnode, hlast⟩ := exists_first (Function.swap graph.Leads) (h.nodes_ne_nil hedges)
    (fun ⟨edge, hedge, _, htarget⟩ => (h.mem_nodes _).mpr ⟨edge, hedge, .inr htarget.symm⟩)
    (fun node hcircle => hacyclic node (Relation.transGen_swap.mp hcircle))
  refine List.ne_nil_of_mem (h.mem_ends_iff.mpr ⟨hnode, fun edge hedge hsource => ?_⟩)
  exact hlast edge.target ⟨edge, hedge, hsource, rfl⟩

end Sound

/-- The nodes of the graph of any shapes are the ends of its edges, each once. The starts are the
nodes that no edge leads to and the ends those that no edge leads away from, both in the order of
the nodes and without a node in common; and there are some of both if there is an edge and no
circle. -/
theorem ofShapes_sorted (connectorType : String) (bindings : List Binding) (shapes : List Shape) :
    let graph := ofShapes connectorType bindings shapes
    (graph.nodes.Nodup ∧ ∀ node, node ∈ graph.nodes ↔ ∃ edge ∈ graph.edges, edge.Touches node) ∧
      (∀ node, node ∈ graph.starts ↔
        node ∈ graph.nodes ∧ ∀ edge ∈ graph.edges, edge.target ≠ node) ∧
      (∀ node, node ∈ graph.ends ↔
        node ∈ graph.nodes ∧ ∀ edge ∈ graph.edges, edge.source ≠ node) ∧
      graph.starts.Sublist graph.nodes ∧ graph.ends.Sublist graph.nodes ∧
      List.Disjoint graph.starts graph.ends ∧
      (graph.edges ≠ [] → graph.Acyclic → graph.starts ≠ [] ∧ graph.ends ≠ []) := by
  intro graph
  have hsound : graph.Sound := ofEdges_sound _
  refine ⟨⟨hsound.distinct, hsound.mem_nodes⟩, fun node => hsound.mem_starts_iff,
    fun node => hsound.mem_ends_iff, List.filter_sublist, List.filter_sublist,
    disjoint_starts_ends graph, fun hedges hacyclic => ?_⟩
  exact ⟨hsound.starts_ne_nil hedges hacyclic, hsound.ends_ne_nil hedges hacyclic⟩

/-- A connector from one shape to another with its bindings. -/
def joining (id source target : String) : Shape × List Binding :=
  (⟨id, "arrow", 0, 0, 0, none, [], []⟩,
    [⟨id ++ ".start", id, source, .start, "arrow"⟩, ⟨id ++ ".end", id, target, .finish, "arrow"⟩])

/-- Two connectors from `a` to `ab`, one of them named twice, and one from `ab` to `abc`. -/
theorem ofShapes_sorted_parallel :
    let connectors := [joining "p" "a" "ab", joining "q" "a" "ab", joining "r" "ab" "abc"]
    let shapes := connectors.map Prod.fst ++ [(joining "p" "a" "ab").1]
    let graph := ofShapes "arrow" (connectors.flatMap Prod.snd) shapes
    graph.edges.length = 4 ∧ graph.starts ≠ [] ∧ graph.ends ≠ [] := by
  intro connectors shapes graph
  have hedges : graph.edges = [⟨"p", "a", "ab", ""⟩, ⟨"q", "a", "ab", ""⟩, ⟨"r", "ab", "abc", ""⟩,
    ⟨"p", "a", "ab", ""⟩] := by decide +kernel
  -- names grow along the edges
  have hlonger (node other : String) (h : graph.Leads node other) : node.length < other.length := by
    obtain ⟨edge, hedge, rfl, rfl⟩ := h
    rw [hedges] at hedge
    revert edge
    decide
  have hacyclic : graph.Acyclic := fun node hcircle => by
    have hlonger := hcircle.lift String.length hlonger
    rw [Relation.transGen_eq_self] at hlonger
    exact Nat.lt_irrefl _ hlonger
  have hsorted := ofShapes_sorted "arrow" (connectors.flatMap Prod.snd) shapes
  exact ⟨by rw [hedges]; rfl, hsorted.2.2.2.2.2.2 (by rw [hedges]; nofun) hacyclic⟩

end Graph

end Canvasflow.Connector
