import Canvasflow.Proofs.Number.Exact

/-!
# Zeros, infinities and order

There are two doubles that equal zero. A whole number is finite, and what can be compared with
another number is finite or infinite. All doubles but the one that is no number are in one order, of
which the comparisons and the equality speak (`ordering?`).
-/

namespace Canvasflow.Double

variable {x : Float}

/-- What equals zero is one of the zeros. -/
theorem eq_of_beq_zero (h : (x == 0.0) = true) : x = 0.0 ∨ x = -0.0 := by
  rw [beq_eq, show view 0.0 = .finite false 0 (-1074) by decide] at h
  cases hview : view x with
  | finite negative m e =>
    rw [hview, View.same, Bool.or_eq_true] at h
    have hm : m = 0 := by
      rcases h with h | h <;> grind
    have he : e = -1074 := (view_canonical hview).full.resolve_left (by omega)
    subst hm he
    cases negative with
    | false => exact .inl (eq_of_view (hview.trans (by decide)) (by simp [hview]))
    | true => exact .inr (eq_of_view (hview.trans (by decide)) (by simp [hview]))
  | _ => simp [hview, View.same] at h

theorem isFinite_of_isInf (h : x.isInf = true) : x.isFinite = false := by
  change x.toModel.unpack.isInf = true at h
  change x.toModel.unpack.isFinite = false
  revert h
  cases x.toModel.unpack <;> simp [Float.Model.UnpackedFloat.isInf,
    Float.Model.UnpackedFloat.isFinite]

theorem not_isInf_of_isFinite (h : x.isFinite = true) : x.isInf = false := by
  rw [Bool.eq_false_iff]
  intro hinf
  rw [isFinite_of_isInf hinf] at h
  cases h

theorem isFinite_of_isWhole (h : isWhole x = true) : x.isFinite = true := by
  rw [isFinite_iff]
  cases hview : view x with
  | finite negative m e => exact ⟨negative, m, e, rfl⟩
  | _ => simp [isWhole, hview] at h

/-- What can be compared with a number is finite or infinite. -/
theorem isInf_of_lt {y : Float} (hlt : x < y) (h : x.isFinite = false) : x.isInf = true := by
  change decide (x.toModel.unpack.lt y.toModel.unpack = true) = true at hlt
  change x.toModel.unpack.isFinite = false at h
  change x.toModel.unpack.isInf = true
  revert hlt h
  cases x.toModel.unpack <;> simp [Float.Model.UnpackedFloat.isInf,
    Float.Model.UnpackedFloat.isFinite, Float.Model.UnpackedFloat.lt,
    Float.Model.UnpackedFloat.compare]

theorem isNaN_of_isFinite (h : x.isFinite = true) : x.isNaN = false := by
  change x.toModel.unpack.isFinite = true at h
  change x.toModel.unpack.isNaN = false
  revert h
  cases x.toModel.unpack <;> simp [Float.Model.UnpackedFloat.isFinite,
    Float.Model.UnpackedFloat.isNaN]

/-! ## Order -/

section Order

variable {y : Float}

/-- How two doubles are ordered; nothing if one of them is no number. -/
def ordering? (x y : Float) : Option Ordering :=
  x.toModel.unpack.compare y.toModel.unpack

theorem lt_iff_ordering : x < y ↔ ordering? x y = some .lt := by
  change decide (x.toModel.unpack.lt y.toModel.unpack = true) = true ↔ _
  simp [Float.Model.UnpackedFloat.lt, ordering?]

theorem le_iff_ordering : x ≤ y ↔ ordering? x y = some .lt ∨ ordering? x y = some .eq := by
  change decide (x.toModel.unpack.le y.toModel.unpack = true) = true ↔ _
  rw [Float.Model.UnpackedFloat.le, ordering?]
  rcases x.toModel.unpack.compare y.toModel.unpack with _ | _ | _ | _ <;> simp

theorem beq_iff_ordering : (x == y) = true ↔ ordering? x y = some .eq := by
  change (x.toModel.unpack.compare y.toModel.unpack == some .eq) = true ↔ _
  rw [ordering?, beq_iff_eq]

theorem ordering?_swap (x y : Float) : ordering? y x = (ordering? x y).map Ordering.swap := by
  unfold ordering?
  rcases x.toModel.unpack with ⟨_ | _⟩ | _ | ⟨_ | _⟩ | ⟨_ | _, m, e, hm⟩ <;>
    rcases y.toModel.unpack with ⟨_ | _⟩ | _ | ⟨_ | _⟩ | ⟨_ | _, n, k, hn⟩ <;>
    simp [Float.Model.UnpackedFloat.compare, Ordering.swap_then, ← Std.OrientedCmp.eq_swap]
  -- what is left are infinities, which are compared by their signs
  all_goals rfl

theorem exists_ordering (hx : x.isNaN = false) (hy : y.isNaN = false) :
    ∃ order, ordering? x y = some order := by
  change x.toModel.unpack.isNaN = false at hx
  change y.toModel.unpack.isNaN = false at hy
  unfold ordering?
  revert hx hy
  rcases x.toModel.unpack with ⟨_ | _⟩ | _ | ⟨_ | _⟩ | ⟨_ | _, m, e, hm⟩ <;>
    rcases y.toModel.unpack with ⟨_ | _⟩ | _ | ⟨_ | _⟩ | ⟨_ | _, n, k, hn⟩ <;>
    simp [Float.Model.UnpackedFloat.compare, Float.Model.UnpackedFloat.isNaN]

/-- What is a number equals itself. -/
theorem beq_self (hx : x.isNaN = false) : (x == x) = true := by
  obtain ⟨order, horder⟩ := exists_ordering hx hx
  have hswap := ordering?_swap x x
  rw [horder] at hswap
  cases order with
  | eq => exact beq_iff_ordering.mpr horder
  | _ => simp at hswap

end Order

end Canvasflow.Double
