import Canvasflow.Connector.Edge
import Canvasflow.Proofs.Page.Plan
import Mathlib.Logic.Relation

/-!
# Who decides on an edge

A connector owns its bindings, and other connectors may be bound to it: it is a shape, too. Its edge
is read off the bindings that it takes part in, so its `guests` count beside the bindings that are
`owned`. `Edge.of?_owned` is the main statement. Without guests, the edge joins what the two owned
bindings lead to, and no change of bindings of other connectors changes it as long as none of them
comes to lead to the connector. One that does takes the edge away, though what the connector owns is
untouched.
-/

namespace Canvasflow.Page.Document

/-- A change of the bindings of a page, among those that are allowed. One that the page refuses
counts, too. -/
inductive Rebinding (allowed : Binding → Prop) (document : Document) : Document → Prop
  | bound {connector target name : String} {terminal : Terminal} {binding : Binding}
      {next : Document} (hbind : document.bind connector target terminal name = (.ok binding, next))
      (hallowed : allowed binding) : Rebinding allowed document next
  | refused {connector target name : String} {terminal : Terminal} {fault : PageFault}
      {next : Document}
      (hbind : document.bind connector target terminal name = (.error fault, next)) :
      Rebinding allowed document next
  | unbound {name : String} {binding : Binding} {next : Document}
      (hunbind : document.unbind name = .ok (binding, next)) (hallowed : allowed binding) :
      Rebinding allowed document next

variable {document next : Document} {allowed : Binding → Prop}

/-- A single change keeps the shapes, and the bindings that it is not allowed to change. -/
theorem Rebinding.keeps (h : Rebinding allowed document next) (keep : Binding → Bool)
    (hdistinct : (Entries.keys document.bindings).Nodup)
    (hkeep : ∀ binding, allowed binding → keep binding = false) :
    next.shapes = document.shapes ∧ (Entries.keys next.bindings).Nodup ∧
      next.pageBindings.filter keep = document.pageBindings.filter keep := by
  cases h with
  | bound hbind hallowed =>
    obtain ⟨hfree, _, _, _, _, _, issued, rfl⟩ := bind_ok hbind
    refine ⟨rfl, ?_, ?_⟩
    · simpa [Entries.keys, List.nodup_append] using
        ⟨hdistinct, fun other value hother heq => hfree (heq ▸ List.mem_map_of_mem hother)⟩
    · simp [pageBindings, Entries.values, hkeep _ hallowed]
  | refused hbind =>
    obtain ⟨issued, rfl⟩ := bind_error hbind
    exact ⟨rfl, hdistinct, rfl⟩
  | unbound hunbind hallowed =>
    have hfilter := filter_unbind hdistinct hunbind (hkeep _ hallowed)
    obtain ⟨_, rfl⟩ := unbind_ok hunbind
    refine ⟨rfl, ?_, hfilter⟩
    rw [Entries.keys_erase]
    exact hdistinct.filter _

/-- Any number of changes keep what a single one keeps. -/
theorem keeps_of_rebindings (h : Relation.ReflTransGen (Rebinding allowed) document next)
    (keep : Binding → Bool) (hdistinct : (Entries.keys document.bindings).Nodup)
    (hkeep : ∀ binding, allowed binding → keep binding = false) :
    next.shapes = document.shapes ∧ (Entries.keys next.bindings).Nodup ∧
      next.pageBindings.filter keep = document.pageBindings.filter keep := by
  induction h with
  | refl => exact ⟨rfl, hdistinct, rfl⟩
  | tail _ hstep ih =>
    obtain ⟨hshapes, hkeys, hfilter⟩ := ih
    obtain ⟨hshapes', hkeys', hfilter'⟩ := hstep.keeps keep hkeys hkeep
    exact ⟨hshapes'.trans hshapes, hkeys', hfilter'.trans hfilter⟩

end Canvasflow.Page.Document

namespace Canvasflow.Connector

open Canvasflow.Page Canvasflow.Page.Document

/-- The bindings that a connector owns, in the order in which they were made. -/
def owned (id : String) (bindings : List Binding) : List Binding :=
  bindings.filter fun binding => binding.connector = id

/-- The bindings by which other connectors are bound to a shape. -/
def guests (id : String) (bindings : List Binding) : List Binding :=
  bindings.filter fun binding => binding.connector ≠ id && binding.target = id

/-- The edge of a shape between what two bindings lead to. -/
def Edge.joining (shape : Shape) (first second : Binding) : Edge :=
  if first.terminal = .finish then ⟨shape.id, second.target, first.target, shape.text⟩
  else ⟨shape.id, first.target, second.target, shape.text⟩

variable {connectorType : String} {bindings : List Binding} {shape : Shape}

/-- A binding that involves a shape is owned by it or leads to it from another one. -/
theorem length_involving (id : String) (bindings : List Binding) :
    (involving id bindings).length = (owned id bindings).length + (guests id bindings).length := by
  induction bindings with
  | nil => rfl
  | cons binding rest ih =>
    simp only [involving, owned, guests, List.filter_cons, ne_eq, decide_not] at ih ⊢
    by_cases howner : binding.connector = id <;> by_cases htarget : binding.target = id <;>
      simp [howner, htarget] <;> omega

/-- Without guests, a shape takes part in the bindings that it owns. -/
theorem involving_of_no_guests {id : String} (h : guests id bindings = []) :
    involving id bindings = owned id bindings := by
  refine List.filter_congr fun binding hbinding => ?_
  have hguest := List.filter_eq_nil_iff.mp h binding hbinding
  by_cases howner : binding.connector = id
  · simp [howner]
  · simpa [howner] using hguest

namespace Edge

/-- A connector has an edge exactly if it takes part in two bindings, and it joins what they lead
to. -/
theorem of?_eq_some_iff (htype : shape.type = connectorType) (edge : Edge) :
    of? connectorType bindings shape = some edge ↔
      ∃ first second, involving shape.id bindings = [first, second] ∧
        edge = joining shape first second := by
  simp only [of?, htype, if_true]
  split
  · rename_i first second htwo
    rw [htwo]
    constructor
    · intro hedge
      refine ⟨first, second, rfl, ?_⟩
      unfold joining
      split at hedge <;> simp_all
    · rintro ⟨_, _, heq, rfl⟩
      obtain ⟨rfl, rfl⟩ : first = _ ∧ second = _ := by simpa using heq
      unfold joining
      split <;> rfl
  · rename_i hnot
    constructor
    · intro hedge
      cases hedge
    · rintro ⟨first, second, htwo, _⟩
      exact absurd htwo (hnot first second)

/-- A connector has an edge exactly if the bindings that it owns and its guests are two. -/
theorem of?_isSome_iff (htype : shape.type = connectorType) :
    (of? connectorType bindings shape).isSome ↔
      (owned shape.id bindings).length + (guests shape.id bindings).length = 2 := by
  rw [← length_involving, Option.isSome_iff_exists, List.length_eq_two]
  constructor
  · rintro ⟨edge, hedge⟩
    obtain ⟨first, second, htwo, _⟩ := (of?_eq_some_iff htype edge).mp hedge
    exact ⟨first, second, htwo⟩
  · rintro ⟨first, second, htwo⟩
    exact ⟨joining shape first second, (of?_eq_some_iff htype _).mpr ⟨first, second, htwo, rfl⟩⟩

/-- The edge of a shape is a matter of the bindings that it takes part in. -/
theorem of?_congr {others : List Binding}
    (h : involving shape.id others = involving shape.id bindings) :
    of? connectorType others shape = of? connectorType bindings shape := by
  simp only [of?, h]

/-- What decides on the edge of a connector. It has one exactly if the bindings that it owns and
those that lead to it from other connectors are two, and without the latter it joins what the two
owned bindings lead to. Changes of the bindings of other connectors keep what it owns, and its edge
if none leads to it before and after; those that do not lead to it keep its edge in any case. A new
one that does takes the edge away. -/
theorem of?_owned {document : Document} (htype : shape.type = connectorType)
    (hdistinct : (Entries.keys document.bindings).Nodup) :
    ((of? connectorType document.pageBindings shape).isSome ↔
      (owned shape.id document.pageBindings).length +
        (guests shape.id document.pageBindings).length = 2) ∧
    (guests shape.id document.pageBindings = [] → ∀ edge,
      of? connectorType document.pageBindings shape = some edge ↔
        ∃ first second, owned shape.id document.pageBindings = [first, second] ∧
          edge = joining shape first second) ∧
    (∀ next, Relation.ReflTransGen
        (Rebinding fun binding => binding.connector ≠ shape.id) document next →
      next.shapes = document.shapes ∧
      owned shape.id next.pageBindings = owned shape.id document.pageBindings ∧
      (guests shape.id document.pageBindings = [] → guests shape.id next.pageBindings = [] →
        of? connectorType next.pageBindings shape =
          of? connectorType document.pageBindings shape)) ∧
    (∀ next, Relation.ReflTransGen
        (Rebinding fun binding => binding.connector ≠ shape.id ∧ binding.target ≠ shape.id)
        document next →
      of? connectorType next.pageBindings shape =
        of? connectorType document.pageBindings shape) ∧
    (∀ connector terminal name binding next,
      document.bind connector shape.id terminal name = (.ok binding, next) →
      connector ≠ shape.id → (of? connectorType document.pageBindings shape).isSome →
        of? connectorType next.pageBindings shape = none) := by
  refine ⟨of?_isSome_iff htype, fun hnone edge => ?_, fun next hrun => ?_, fun next hrun => ?_, ?_⟩
  · rw [of?_eq_some_iff htype, involving_of_no_guests hnone]
  · obtain ⟨hshapes, _, howned⟩ := keeps_of_rebindings hrun
      (fun binding => binding.connector = shape.id) hdistinct (by simp)
    refine ⟨hshapes, howned, fun hbefore hafter => of?_congr ?_⟩
    rw [involving_of_no_guests hbefore, involving_of_no_guests hafter]
    exact howned
  · exact of?_congr (keeps_of_rebindings hrun
      (fun binding => binding.connector = shape.id || binding.target = shape.id)
      hdistinct (by simp +contextual)).2.2
  · intro connector terminal name binding next hbind hother hedge
    obtain ⟨_, rfl, htarget, _, _, _, issued, rfl⟩ := bind_ok hbind
    have hpage : pageBindings { document with
          issued := issued, bindings := document.bindings ++ [(binding.id, binding)] } =
        document.pageBindings ++ [binding] := by
      simp [pageBindings, Entries.values]
    have hone : (involving shape.id (document.pageBindings ++ [binding])).length =
        (involving shape.id document.pageBindings).length + 1 := by
      simp [involving, htarget]
    -- The connector takes part in two bindings already, and now in three.
    rw [of?_isSome_iff htype, ← length_involving] at hedge
    rw [hpage, ← Option.not_isSome_iff_eq_none, of?_isSome_iff htype, ← length_involving, hone]
    omega

/-- A page with a connector between two shapes, and another connector. -/
def crossroads : Document :=
  let shape (id type : String) : String × Shape := (id, ⟨id, type, 0, 0, 0, none, [], []⟩)
  { Document.empty ⟨"arrow", "", ""⟩ with
    shapes := [shape "a" "geo", shape "b" "geo", shape "c" "arrow", shape "d" "arrow"]
    bindings := [("1", ⟨"1", "c", "a", .start, "arrow"⟩), ("2", ⟨"2", "c", "b", .finish, "arrow"⟩)] }

/-- A connector that has an edge is without it while another connector is bound to it. -/
theorem crossed_loses_edge : ∃ shape binding crossed restored,
    crossroads.shape? "c" = some shape ∧
    of? "arrow" crossroads.pageBindings shape = some ⟨"c", "a", "b", ""⟩ ∧
    crossroads.bind "d" "c" .start "3" = (.ok binding, crossed) ∧
    owned "c" crossed.pageBindings = owned "c" crossroads.pageBindings ∧
    of? "arrow" crossed.pageBindings shape = none ∧
    crossed.unbind "3" = .ok (binding, restored) ∧
    of? "arrow" restored.pageBindings shape = some ⟨"c", "a", "b", ""⟩ := by
  let shape : Shape := ⟨"c", "arrow", 0, 0, 0, none, [], []⟩
  let binding : Binding := ⟨"3", "d", "c", .start, "arrow"⟩
  let crossed : Document := { crossroads with bindings := crossroads.bindings ++ [("3", binding)] }
  have hbind : crossroads.bind "d" "c" .start "3" = (.ok binding, crossed) := rfl
  have hunbind : crossed.unbind "3" = .ok (binding, crossroads) := rfl
  have htype : shape.type = "arrow" := rfl
  obtain ⟨_, _, hrun, _, hcrossed⟩ := of?_owned htype (show crossroads.bindings.keys.Nodup by decide)
  have hother : binding.connector ≠ shape.id := by decide
  have hthere : Rebinding (fun binding => binding.connector ≠ shape.id) crossroads crossed :=
    .bound hbind hother
  have hback : Rebinding (fun binding => binding.connector ≠ shape.id) crossed crossroads :=
    .unbound hunbind hother
  refine ⟨shape, binding, crossed, crossroads, rfl, rfl, hbind, (hrun crossed (.single hthere)).2.1,
    hcrossed "d" .start "3" binding crossed hbind hother rfl, hunbind, ?_⟩
  exact (hrun crossroads (.tail (.single hthere) hback)).2.2 rfl rfl

end Edge

end Canvasflow.Connector
