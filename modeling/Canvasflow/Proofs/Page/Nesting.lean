import Canvasflow.Page.Layout
import Canvasflow.Proofs.Page.Plan

/-!
# Nested shapes

A shape lies within another one when the way outwards from it passes there. On a sound page the way
outwards ends, so the depths to which walks over the page are limited are never reached:
`family_eq` and `placementWithin_eq` say so for the walk inwards and the walk outwards.
`mem_family_iff` says that the walk inwards meets what lies within a shape, and
`bounds_of_untouched` that a change of one shape leaves the boxes of all shapes alone that do not
lie within it.
-/

namespace Canvasflow.Page

open Canvasflow.Geometry

namespace Document

/-- The shapes within a shape: itself, and what they hold. -/
inductive Within (document : Document) (root : String) : String → Prop where
  | self : Within document root root
  | child {id parent : String} {shape : Shape} (hshape : document.shape? id = some shape)
      (hparent : shape.parent? = some parent) (hwithin : Within document root parent) :
      Within document root id

/-- A shape followed by everything within it, to the given depth. -/
def family (document : Document) : Nat → String → List String
  | 0, _ => []
  | depth + 1, id => id :: (document.children id).flatMap (document.family depth)

variable {document next : Document}

theorem Within.trans {root middle id : String} (h : document.Within root middle)
    (hinner : document.Within middle id) : document.Within root id := by
  induction hinner with
  | self => exact h
  | child hshape hparent _ ih => exact .child hshape hparent ih

/-- What lies within a shape is a matter of the other shapes. -/
theorem Within.congr {root id : String} (h : document.Within root id)
    (hsame : ∀ {other : String}, other ≠ root → next.shape? other = document.shape? other) :
    next.Within root id := by
  induction h with
  | self => exact .self
  | @child id parent shape hshape hparent _ ih =>
    by_cases heq : id = root
    · rw [heq]
      exact .self
    · exact .child ((hsame heq).trans hshape) hparent ih

/-- What a shape holds comes after it. -/
theorem Sound.place_lt_of_mem_children (h : document.Sound) {id parent : String}
    (hchild : id ∈ document.children parent) :
    document.place parent < document.place id ∧ document.place id < document.shapes.length := by
  obtain ⟨shape, hshape, hparent⟩ := h.filed.mem_children.mp hchild
  exact ⟨h.place_lt hshape hparent, place_lt_length_iff.mpr (by simp [hshape])⟩

/-- The depth of the walk inwards does not matter when it is as great as the number of shapes from
the root onwards. -/
theorem Sound.family_eq (h : document.Sound) {first second : Nat} {id : String}
    (hfirst : document.shapes.length - document.place id < first)
    (hsecond : document.shapes.length - document.place id < second) :
    document.family first id = document.family second id := by
  induction first generalizing second id with
  | zero => omega
  | succ first ih =>
    cases second with
    | zero => omega
    | succ second =>
      simp only [family, List.cons.injEq, true_and]
      apply List.flatMap_congr
      -- A child has a greater place, so for it one step less is deep enough.
      intro child hchild
      obtain ⟨hlt, hlength⟩ := h.place_lt_of_mem_children hchild
      exact ih (by omega) (by omega)

/-- The walk inwards goes on from everything that it meets. -/
theorem Sound.mem_family_of_mem_children (h : document.Sound) {depth : Nat}
    {root id parent : String} (hdepth : document.shapes.length - document.place root < depth)
    (hparent : parent ∈ document.family depth root) (hchild : id ∈ document.children parent) :
    id ∈ document.family depth root := by
  induction depth generalizing root with
  | zero => omega
  | succ depth ih =>
    simp only [family, List.mem_cons, List.mem_flatMap] at hparent ⊢
    rcases hparent with rfl | ⟨middle, hmiddle, hinner⟩
    · obtain ⟨hlt, hlength⟩ := h.place_lt_of_mem_children hchild
      refine .inr ⟨id, hchild, ?_⟩
      obtain ⟨rest, rfl⟩ : ∃ rest, depth = rest + 1 := ⟨depth - 1, by omega⟩
      exact List.mem_cons_self
    · obtain ⟨hlt, hlength⟩ := h.place_lt_of_mem_children hmiddle
      exact .inr ⟨middle, hmiddle, ih (by omega) hinner⟩

/-- The walk inwards meets exactly what lies within the root. -/
theorem Sound.mem_family_iff (h : document.Sound) {depth : Nat} {root id : String}
    (hdepth : document.shapes.length - document.place root < depth) :
    id ∈ document.family depth root ↔ document.Within root id := by
  constructor
  · intro hid
    -- The bound on the depth is lost on the way inwards, and is not needed for this direction.
    clear hdepth
    induction depth generalizing root with
    | zero => cases hid
    | succ depth ih =>
      simp only [family, List.mem_cons, List.mem_flatMap] at hid
      rcases hid with rfl | ⟨child, hchild, hinner⟩
      · exact .self
      · obtain ⟨shape, hshape, hparent⟩ := h.filed.mem_children.mp hchild
        exact Within.trans (.child hshape hparent .self) (ih hinner)
  · intro hwithin
    induction hwithin with
    | self =>
      obtain ⟨rest, rfl⟩ : ∃ rest, depth = rest + 1 := ⟨depth - 1, by omega⟩
      exact List.mem_cons_self
    | child hshape hparent _ ih =>
      exact h.mem_family_of_mem_children hdepth ih (h.filed.mem_children.mpr ⟨_, hshape, hparent⟩)

/-- Nothing else lies within a shape that holds nothing. -/
theorem Sound.eq_of_within (h : document.Sound) {root id : String}
    (hchildren : document.children root = []) (hwithin : document.Within root id) : id = root := by
  induction hwithin with
  | self => rfl
  | @child id parent shape hshape hparent _ ih =>
    have hchild := h.filed.mem_children.mpr ⟨shape, hshape, hparent⟩
    rw [ih, hchildren] at hchild
    cases hchild

/-! ## Placement -/

/-- The number of steps of the walk outwards does not matter when it exceeds the place of the
shape. -/
theorem Sound.placementWithin_eq (h : document.Sound) {first second : Nat} {id : String}
    (hfirst : document.place id < first) (hsecond : document.place id < second) :
    document.placementWithin first id = document.placementWithin second id := by
  induction first generalizing second id with
  | zero => omega
  | succ first ih =>
    cases second with
    | zero => omega
    | succ second =>
      simp only [placementWithin]
      cases hshape : document.shape? id with
      | none => rfl
      | some shape =>
        cases hparent : shape.parent? with
        | none => simp only [hparent]
        | some parent =>
          have hlt := h.place_lt hshape hparent
          have houter : document.placementWithin first parent =
              document.placementWithin second parent := ih (by omega) (by omega)
          simp only [hparent, houter]

/-- The walk outwards ends. -/
theorem Sound.placementWithin_ok (h : document.Sound) {steps : Nat} {id : String}
    (hsteps : document.place id < steps) :
    ∃ placement?, document.placementWithin steps id = .ok placement? := by
  induction steps generalizing id with
  | zero => omega
  | succ steps ih =>
    simp only [placementWithin]
    cases hshape : document.shape? id with
    | none => exact ⟨_, rfl⟩
    | some shape =>
      cases hparent : shape.parent? with
      | none => exact ⟨some shape.placement, by simp only [hparent]⟩
      | some parent =>
        have hlt := h.place_lt hshape hparent
        obtain ⟨outer?, houter⟩ : ∃ outer?, document.placementWithin steps parent = .ok outer? :=
          ih (by omega)
        simp only [hparent, houter]
        cases outer? <;> exact ⟨_, rfl⟩

/-- The walk outwards looks only at shapes on its way. -/
theorem placementWithin_congr {onWay : String → Prop}
    (hway : ∀ {id parent : String} {shape : Shape}, onWay id → document.shape? id = some shape →
      shape.parent? = some parent → onWay parent)
    (hsame : ∀ {id : String}, onWay id → next.shape? id = document.shape? id)
    (steps : Nat) {id : String} (hid : onWay id) :
    next.placementWithin steps id = document.placementWithin steps id := by
  induction steps generalizing id with
  | zero => rfl
  | succ steps ih =>
    simp only [placementWithin, hsame hid]
    cases hshape : document.shape? id with
    | none => rfl
    | some shape =>
      cases hparent : shape.parent? with
      | none => simp only [hparent]
      | some parent => simp only [hparent, ih (hway hid hshape hparent)]

/-- The box of a shape depends only on the shapes on the way outwards. -/
theorem Sound.bounds_congr (h : document.Sound) (hnext : next.Sound) (onWay : String → Prop)
    (hway : ∀ {id parent : String} {shape : Shape}, onWay id → document.shape? id = some shape →
      shape.parent? = some parent → onWay parent)
    (hsame : ∀ {id : String}, onWay id → next.shape? id = document.shape? id)
    {id : String} (hid : onWay id) : next.bounds? id = document.bounds? id := by
  simp only [bounds?, hsame hid]
  cases hshape : document.shape? id with
  | none => rfl
  | some shape =>
    have hplacement : next.placement? id = document.placement? id := by
      have hle := document.place_le_length id
      have hnextLe := next.place_le_length id
      -- Both walks go on to a common depth, at which they look at the same shapes.
      let steps := max (document.shapes.length + 1) (next.shapes.length + 1)
      calc next.placement? id
        _ = next.placementWithin steps id := hnext.placementWithin_eq (by omega) (by omega)
        _ = document.placementWithin steps id := placementWithin_congr hway hsame steps hid
        _ = document.placement? id := h.placementWithin_eq (by omega) (by omega)
    simp only [bounds, outline, h.id_eq hshape, hplacement]

/-- A change of one shape leaves the boxes alone of what does not lie within it. -/
theorem Sound.bounds_of_untouched (h : document.Sound) (hnext : next.Sound) {root id : String}
    (hsame : ∀ {other : String}, other ≠ root → next.shape? other = document.shape? other)
    (hid : ¬ document.Within root id) : next.bounds? id = document.bounds? id := by
  refine h.bounds_congr hnext (fun id => ¬ document.Within root id) ?_ ?_ hid
  · intro id parent shape hid hshape hparent hwithin
    exact hid (.child hshape hparent hwithin)
  · intro id hid
    exact hsame (fun heq => hid (heq ▸ .self))

/-- Boxes depend on the shapes alone. -/
theorem Sound.bounds_of_shapes_eq (h : document.Sound) (hnext : next.Sound)
    (hshapes : next.shapes = document.shapes) (id : String) :
    next.bounds? id = document.bounds? id :=
  h.bounds_congr hnext (fun _ => True) (fun _ _ _ => trivial)
    (fun _ => by simp only [shape?, hshapes]) trivial

end Document

end Canvasflow.Page
