import Canvasflow.Geometry.GridIndex

/-!
# Boxes of a grid index

What a grid index answers about the boxes of its keys. An index takes a box when the key has that
box already or the cells that the box covers can be told. A box that is taken is the one of its key
from then on, up to the comparison of boxes, and no other key is affected; a box that is not taken
leaves its key without one.
-/

namespace Canvasflow.Geometry.GridIndex

variable {K : Type}

/-- The box of a key that was taken off is gone, and the others stay. -/
theorem box?_remove (index : GridIndex K) (key other : String) :
    (index.remove key).box? other = if other = key then none else index.box? other := by
  unfold remove
  cases hentry : Entries.find? key index.boxes with
  | none =>
    by_cases heq : other = key
    · simp [box?, heq, hentry]
    · simp only [if_neg heq]
  | some entry =>
    by_cases heq : other = key
    · simp [box?, heq]
    · simp [box?, heq, Entries.find?_erase_of_ne heq]

theorem box?_add (index : GridIndex K) (key other : String) (entry : Indexed K) :
    (index.add key entry).box? other =
      if other = key then some entry.box else index.box? other := by
  by_cases heq : other = key
  · simp [box?, add, heq]
  · simp [box?, add, heq, Entries.find?_set_of_ne heq]

@[simp] theorem cellSize_remove (index : GridIndex K) (key : String) :
    (index.remove key).cellSize = index.cellSize := by
  unfold remove
  split <;> rfl

section Insertion

variable [Add K] [Div K] [BEq K] [Floored K] {index : GridIndex K} {key : String} {box : Box K}

/-- Whether an index can store a box under a key. -/
def Takes (index : GridIndex K) (key : String) (box : Box K) : Prop :=
  (index.box? key == some box) = true ∨ ∃ covered, cells index.cellSize box = .ok covered

/-- Whether a key has a box, up to the comparison of boxes. -/
def Holds (index : GridIndex K) (key : String) (box : Box K) : Prop :=
  ∃ held, index.box? key = some held ∧ (held = box ∨ (held == box) = true)

/-- A box that is not taken leaves its key without one. -/
theorem insert_of_not_takes (h : ¬ index.Takes key box) :
    ∃ fault, index.insert key box = (index.remove key, .error fault) := by
  simp only [Takes, not_or, Bool.not_eq_true] at h
  cases hcells : cells index.cellSize box with
  | ok covered => exact absurd ⟨covered, hcells⟩ h.2
  | error fault => exact ⟨fault, by simp [insert, h.1, hcells]⟩

/-- A box that is taken is the one of its key and would be taken again, and no other key is
affected. -/
theorem insert_of_takes (h : index.Takes key box) :
    ∃ next, index.insert key box = (next, .ok ()) ∧ next.cellSize = index.cellSize ∧
      next.Holds key box ∧ next.Takes key box ∧
        ∀ other, other ≠ key → next.box? other = index.box? other := by
  by_cases hsame : (index.box? key == some box) = true
  · refine ⟨index, by simp [insert, hsame], rfl, ?_, h, fun _ _ => rfl⟩
    cases hheld : index.box? key with
    | none => simp [hheld] at hsame
    | some held => exact ⟨held, hheld, .inr (by simpa [hheld] using hsame)⟩
  · obtain ⟨covered, hcells⟩ := h.resolve_left hsame
    have hsize : ((index.remove key).add key ⟨box, covered⟩).cellSize = index.cellSize :=
      cellSize_remove index key
    refine ⟨(index.remove key).add key ⟨box, covered⟩, by simp [insert, hsame, hcells], hsize, ?_,
      .inr ⟨covered, by rw [hsize, hcells]⟩, ?_⟩
    · exact ⟨box, by rw [box?_add, if_pos rfl], .inl rfl⟩
    · intro other hne
      rw [box?_add, if_neg hne, box?_remove, if_neg hne]

theorem cellSize_insert (index : GridIndex K) (key : String) (box : Box K) :
    (index.insert key box).1.cellSize = index.cellSize := by
  unfold insert
  split
  · rfl
  · split <;> exact cellSize_remove index key

/-- Storing a box does not affect the other keys. -/
theorem box?_insert_of_ne {other : String} (hne : other ≠ key) :
    (index.insert key box).1.box? other = index.box? other := by
  unfold insert
  split
  · rfl
  · split
    · rw [box?_add, if_neg hne, box?_remove, if_neg hne]
    · rw [box?_remove, if_neg hne]

/-- The box that a key has after one was stored is the one stored, or the one that it had. -/
theorem of_box?_insert {held : Box K} (h : (index.insert key box).1.box? key = some held) :
    index.box? key = some held ∨ held = box := by
  unfold insert at h
  split at h
  · exact .inl h
  · split at h
    · rw [box?_add, if_pos rfl] at h
      exact .inr (Option.some.inj h).symm
    · rw [box?_remove, if_pos rfl] at h
      cases h

/-- What an index takes it takes after it has taken something else. -/
theorem Takes.congr {next : GridIndex K} (h : index.Takes key box)
    (hcells : next.cellSize = index.cellSize) (hbox : next.box? key = index.box? key) :
    next.Takes key box := by
  simpa only [Takes, hcells, hbox] using h

end Insertion

end Canvasflow.Geometry.GridIndex
