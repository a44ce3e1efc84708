import Canvasflow.Program.Operator
import Canvasflow.Proofs.Number.Safe
import Canvasflow.Proofs.Number.Special
import Canvasflow.Proofs.Program.NumberTexts

/-!
# Orderings and equality of numbers

The four orderings convert both operands to doubles, while the equality compares the numbers as they
are. The two fit together for numbers that are converted without rounding. An integer that is
rounded is neither equal to its own double nor less or greater, and an integer beyond the range of
doubles cannot be ordered at all; `comparisons_consistent_iff` says that nothing else goes wrong.
-/

namespace Canvasflow

open Double

namespace Number

/-- Whether the number is the double that is no number. -/
def isNaN : Number → Bool
  | int _ => false
  | double x => x.isNaN

/-- Whether the double that a number is converted to is the same number. -/
def Exact (a : Number) : Prop :=
  ∃ x, a.toFloat? = some x ∧ a.same (.double x) = true

/-- Whether two numbers are converted to equal doubles. -/
def RoundAlike (a b : Number) : Prop :=
  ∃ x y, a.toFloat? = some x ∧ b.toFloat? = some y ∧ (x == y) = true

variable {a b : Number} {x y : Float} {n : ℤ}

theorem roundsTo_of_toFloat? (h : (int n).toFloat? = some x) :
    x.isFinite = true ∧ RoundsTo x n := by
  obtain ⟨y, hrounds, hof⟩ := ofInt?_eq n
  rw [toFloat?, hof, Option.ite_none_right_eq_some] at h
  obtain ⟨hfinite, hxy⟩ := h
  cases hxy
  exact ⟨hfinite, hrounds⟩

theorem roundsTo_of_equalsInt (h : equalsInt x n = true) : RoundsTo x n := by
  obtain ⟨hfinite, hvalue⟩ := equalsInt_iff_value.mp h
  exact hvalue ▸ roundsTo_value hfinite

theorem isNaN_of_toFloat? (ha : a.isNaN = false) (h : a.toFloat? = some x) : x.isNaN = false := by
  cases a with
  | int n => exact isNaN_of_isFinite (roundsTo_of_toFloat? h).1
  | double z =>
    cases h
    exact ha

/-- Numbers that are the same are converted to equal doubles. -/
theorem beq_of_same (ha : a.toFloat? = some x) (hb : b.toFloat? = some y)
    (h : a.same b = true) : (x == y) = true := by
  cases a with
  | int m =>
    have hx := (roundsTo_of_toFloat? ha).2
    cases b with
    | int n =>
      obtain rfl : m = n := by simpa [same] using h
      exact hx.same (roundsTo_of_toFloat? hb).2
    | double z =>
      cases hb
      exact hx.same (roundsTo_of_equalsInt h)
  | double z =>
    cases ha
    cases b with
    | int n => exact (roundsTo_of_equalsInt h).same (roundsTo_of_toFloat? hb).2
    | double w =>
      cases hb
      exact h

/-! ## Numbers that are not rounded -/

theorem exact_double (h : x.isNaN = false) : (double x).Exact :=
  ⟨x, rfl, beq_self h⟩

/-- Integers of at most 53 bits are not rounded. -/
theorem exact_int (h : n.natAbs < 2 ^ 53) : (int n).Exact := by
  refine ⟨Float.ofInt n, ofInt?_of_lt h, ?_⟩
  change equalsInt (Float.ofInt n) n = true
  rw [← beq_ofInt (Float.ofInt n) h]
  exact beq_self (isNaN_ofInt h)

theorem Exact.inRange (h : a.Exact) : a.InRange := by
  obtain ⟨x, hx, -⟩ := h
  rw [← toFloat?_isSome_iff, hx]
  rfl

theorem Exact.isNaN_eq (h : a.Exact) : a.isNaN = false := by
  obtain ⟨x, hx, hsame⟩ := h
  cases a with
  | int n => rfl
  | double z =>
    cases hx
    rw [isNaN, Bool.eq_false_iff]
    intro hnan
    have hsame : (x == x) = true := hsame
    rw [beq_eq, (isNaN_iff x).mp hnan] at hsame
    cases hsame

/-- Numbers that are not rounded are told apart by their doubles. -/
theorem Exact.same_of_roundAlike (ha : a.Exact) (hb : b.Exact) (h : a.RoundAlike b) :
    a.same b = true := by
  obtain ⟨x, hx, hsame⟩ := ha
  obtain ⟨y, hy, hsame'⟩ := hb
  obtain ⟨_, _, hx', hy', hbeq⟩ := h
  cases hx.symm.trans hx'
  cases hy.symm.trans hy'
  cases a with
  | int m =>
    have hsame : equalsInt y m = true := equalsInt_congr hbeq m ▸ hsame
    cases b with
    | int n =>
      have hvalue := (equalsInt_iff_value.mp hsame).2
      rw [(equalsInt_iff_value.mp hsame').2] at hvalue
      simpa [same] using hvalue.symm
    | double z =>
      cases hy
      exact hsame
  | double z =>
    cases hx
    cases b with
    | int n => exact (equalsInt_congr hbeq n).trans hsame'
    | double w =>
      cases hy
      exact hbeq

/-- A number that is rounded is not the same as the double that it is converted to. -/
theorem exists_roundAlike (hnan : a.isNaN = false) (hrange : a.InRange) (h : ¬a.Exact) :
    ∃ x, (double x).Exact ∧ a.RoundAlike (double x) ∧ a.same (double x) = false := by
  obtain ⟨x, hx⟩ := Option.isSome_iff_exists.mp ((toFloat?_isSome_iff a).mpr hrange)
  cases a with
  | int n =>
    have hnumber := isNaN_of_toFloat? hnan hx
    refine ⟨x, exact_double hnumber, ⟨x, x, hx, rfl, beq_self hnumber⟩, ?_⟩
    rw [Bool.eq_false_iff]
    exact fun hsame => h ⟨x, hx, hsame⟩
  | double z => exact absurd (exact_double hnan) h

end Number

namespace Program

/-- The operator of an ordering. -/
def Comparison.operator : Comparison → BinaryOp
  | .less => .less
  | .greater => .greater
  | .lessEqual => .lessEqual
  | .greaterEqual => .greaterEqual

/-- Whether an operator gives true for two numbers. -/
def Holds (heap : Heap) (op : BinaryOp) (a b : Number) : Prop :=
  applyBinary heap op (.num a) (.num b) = .ok (.bool true)

/-- The orderings and the equality of two numbers fit together: exactly one of less, equal and
greater holds, and a weak ordering holds if the strict one or the equality does. -/
structure Consistent (heap : Heap) (a b : Number) : Prop where
  one : (Holds heap .less a b ∧ ¬Holds heap .same a b ∧ ¬Holds heap .greater a b) ∨
    (¬Holds heap .less a b ∧ Holds heap .same a b ∧ ¬Holds heap .greater a b) ∨
    (¬Holds heap .less a b ∧ ¬Holds heap .same a b ∧ Holds heap .greater a b)
  lessEqual : Holds heap .lessEqual a b ↔ Holds heap .less a b ∨ Holds heap .same a b
  greaterEqual : Holds heap .greaterEqual a b ↔ Holds heap .greater a b ∨ Holds heap .same a b

variable {heap : Heap} {a b : Number} {x y : Float}

theorem applyBinary_operator (comparison : Comparison) (ha : a.toFloat? = some x)
    (hb : b.toFloat? = some y) : applyBinary heap comparison.operator (.num a) (.num b) =
      .ok (.bool (comparison.doubles x y)) := by
  cases comparison <;>
    simp only [applyBinary, Comparison.operator, compareValues, Value.numericOperand,
      Value.toNumber, ha, hb] <;> rfl

/-- An integer beyond the range of doubles is refused by every ordering. -/
theorem applyBinary_overflow (comparison : Comparison) (h : ¬(a.InRange ∧ b.InRange)) :
    applyBinary heap comparison.operator (.num a) (.num b) = .error .overflow := by
  rw [← Number.toFloat?_isSome_iff, ← Number.toFloat?_isSome_iff] at h
  have hcompare : compareValues comparison comparison.operator.symbol (.num a) (.num b) =
      .error .overflow := by
    simp only [compareValues, Value.numericOperand, Value.toNumber]
    cases ha : a.toFloat? with
    | none => rfl
    | some x => cases hb : b.toFloat? with
      | none => rfl
      | some y => simp [ha, hb] at h
  cases comparison <;> exact hcompare

theorem holds_operator (comparison : Comparison) (ha : a.toFloat? = some x)
    (hb : b.toFloat? = some y) :
    Holds heap comparison.operator a b ↔ comparison.doubles x y = true := by
  simp [Holds, applyBinary_operator comparison ha hb]

theorem holds_same : Holds heap .same a b ↔ a.same b = true := by
  simp [Holds, applyBinary, Value.same]

/-- Numbers that can be ordered fit together exactly if equal doubles are the same number. -/
theorem consistent_iff_of_toFloat? (hx : x.isNaN = false) (hy : y.isNaN = false)
    (ha : a.toFloat? = some x) (hb : b.toFloat? = some y) :
    Consistent heap a b ↔ ((x == y) = true → a.same b = true) := by
  have hsame : a.same b = true → (x == y) = true := Number.beq_of_same ha hb
  have hless : Holds heap .less a b ↔ x < y :=
    (holds_operator .less ha hb).trans decide_eq_true_iff
  have hgreater : Holds heap .greater a b ↔ y < x :=
    (holds_operator .greater ha hb).trans decide_eq_true_iff
  have hlessEqual : Holds heap .lessEqual a b ↔ x ≤ y :=
    (holds_operator .lessEqual ha hb).trans decide_eq_true_iff
  have hgreaterEqual : Holds heap .greaterEqual a b ↔ y ≤ x :=
    (holds_operator .greaterEqual ha hb).trans decide_eq_true_iff
  obtain ⟨order, horder⟩ := exists_ordering hx hy
  have hswap := ordering?_swap x y
  rw [horder] at hswap
  rw [beq_iff_ordering, horder] at hsame ⊢
  rw [lt_iff_ordering, horder] at hless
  rw [lt_iff_ordering, hswap] at hgreater
  rw [le_iff_ordering, horder] at hlessEqual
  rw [le_iff_ordering, hswap] at hgreaterEqual
  constructor
  · rintro ⟨hone, -, -⟩ heq
    cases heq
    simpa [hless, hgreater, holds_same] using hone
  · intro heq
    cases order <;>
      constructor <;> simp_all [holds_same]

/-- Of a number that cannot be ordered, no ordering holds, so that it would have to be equal and
still not less or equal. -/
theorem not_consistent_of_overflow (h : ¬(a.InRange ∧ b.InRange)) : ¬Consistent heap a b := by
  rintro ⟨hone, hle, -⟩
  have hnot : ∀ comparison : Comparison, ¬Holds heap comparison.operator a b := by
    intro comparison hholds
    rw [Holds, applyBinary_overflow comparison h] at hholds
    cases hholds
  have hless : ¬Holds heap .less a b := hnot .less
  have hgreater : ¬Holds heap .greater a b := hnot .greater
  have hsame : ¬Holds heap .same a b := fun hholds => hnot .lessEqual (hle.mpr (.inr hholds))
  simp [hless, hgreater, hsame] at hone

theorem consistent_iff (ha : a.isNaN = false) (hb : b.isNaN = false) :
    Consistent heap a b ↔ a.InRange ∧ b.InRange ∧ (a.RoundAlike b → a.same b = true) := by
  by_cases hrange : a.InRange ∧ b.InRange
  · obtain ⟨x, hx⟩ := Option.isSome_iff_exists.mp ((a.toFloat?_isSome_iff).mpr hrange.1)
    obtain ⟨y, hy⟩ := Option.isSome_iff_exists.mp ((b.toFloat?_isSome_iff).mpr hrange.2)
    have halike : a.RoundAlike b ↔ (x == y) = true := by
      simp [Number.RoundAlike, hx, hy]
    rw [consistent_iff_of_toFloat? (Number.isNaN_of_toFloat? ha hx)
      (Number.isNaN_of_toFloat? hb hy) hx hy, halike]
    simp [hrange]
  · have hnot : ¬Consistent heap a b := not_consistent_of_overflow hrange
    simp only [hnot, false_iff]
    exact fun h => hrange ⟨h.1, h.2.1⟩

/-- Two numbers, neither of them the double that is no number, fit together exactly if both can be
ordered, and are the same number in case they are converted to equal doubles. Numbers that are not
rounded all fit together, and one that is rounded does not fit together with all of these. -/
theorem comparisons_consistent_iff (heap : Heap) (a : Number) (ha : a.isNaN = false) :
    (∀ b, b.isNaN = false → (Consistent heap a b ↔
      a.InRange ∧ b.InRange ∧ (a.RoundAlike b → a.same b = true))) ∧
    (a.Exact ↔ ∀ b, b.Exact → Consistent heap a b) := by
  refine ⟨fun b hb => consistent_iff ha hb, fun hexact b hb => ?_, fun hall => ?_⟩
  · rw [consistent_iff ha hb.isNaN_eq]
    exact ⟨hexact.inRange, hb.inRange, hexact.same_of_roundAlike hb⟩
  · by_contra hrounded
    -- a number that is out of range fits nothing, and zero is not rounded
    have hzero := hall (.double 0) (Number.exact_double rfl)
    rw [consistent_iff ha rfl] at hzero
    obtain ⟨x, hx, halike, hdiffer⟩ := Number.exists_roundAlike ha hzero.1 hrounded
    have hfits := hall (.double x) hx
    rw [consistent_iff ha hx.isNaN_eq] at hfits
    rw [hfits.2.2 halike] at hdiffer
    cases hdiffer

/-- The integer 2 ^ 53 + 1 is rounded to the double 2 ^ 53, and is neither less than it nor equal
nor greater; the integer 2 ^ 53 - 1 is not rounded. -/
theorem comparisons_inconsistent_of_rounded :
    ¬Consistent .empty (.int (2 ^ 53 + 1)) (.double 9007199254740992.0) ∧
    Consistent .empty (.int (2 ^ 53 - 1)) (.double 0.5) := by
  constructor
  · rw [(comparisons_consistent_iff .empty (.int (2 ^ 53 + 1)) rfl).1
      (.double 9007199254740992.0) (by decide)]
    rintro ⟨-, -, hsame⟩
    exact absurd (hsame ⟨9007199254740992.0, 9007199254740992.0, by rfl, rfl, by decide⟩)
      (by decide)
  · exact (comparisons_consistent_iff .empty (.int (2 ^ 53 - 1)) rfl).2.mp
      (Number.exact_int (by decide)) (.double 0.5) (Number.exact_double (by decide))

end Program

end Canvasflow
