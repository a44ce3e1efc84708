import Canvasflow.Number
import Canvasflow.Proofs.Number.Whole

/-!
# Safe integers and their doubles

An integer of at most `settledLimit` is the same number as its double. Two numbers are `Alike` when
they are one number, or such an integer and its double: then they have the same double, the same
whole part, the same text and the same settled form, and they are the same as the same numbers.
-/

namespace Canvasflow.Number

/-- Numbers that are equal up to the form of a safe integer. -/
inductive Alike : Number → Number → Prop
  | refl (a : Number) : Alike a a
  | toDouble {n : Int} (h : n.natAbs ≤ settledLimit) : Alike (int n) (double (Float.ofInt n))
  | toInt {n : Int} (h : n.natAbs ≤ settledLimit) : Alike (double (Float.ofInt n)) (int n)

/-- What does not tell a safe integer from its double does not tell alike numbers apart. -/
theorem Alike.congr {α : Type} {f : Number → α} {a b : Number} (h : Alike a b)
    (hf : ∀ n : Int, n.natAbs ≤ settledLimit → f (int n) = f (double (Float.ofInt n))) :
    f a = f b := by
  cases h with
  | refl => rfl
  | toDouble h => exact hf _ h
  | toInt h => exact (hf _ h).symm

section Safe

variable {n : Int}

theorem lt_of_safe (h : n.natAbs ≤ settledLimit) : n.natAbs < 2 ^ 53 := by
  simp only [settledLimit, Nat.pow_eq] at h
  omega

theorem ofInt?_of_lt (h : n.natAbs < 2 ^ 53) : Double.ofInt? n = some (Float.ofInt n) := by
  simp only [Double.ofInt?, Nat.pow_eq, if_pos h, Double.isFinite_ofInt h, if_true]

theorem isNaN_ofInt (h : n.natAbs < 2 ^ 53) : (Float.ofInt n).isNaN = false := by
  obtain ⟨_, _, _, hview⟩ := (Double.isFinite_iff _).mp (Double.isFinite_ofInt h)
  rw [← Bool.not_eq_true, Double.isNaN_iff, hview]
  nofun

theorem whole?_ofInt (h : n.natAbs < 2 ^ 53) : whole? (double (Float.ofInt n)) = some n := by
  simp [whole?, Double.isWhole_ofInt h, Double.truncate?_ofInt h]

theorem equalsInt_ofInt (h : n.natAbs < 2 ^ 53) (m : Int) :
    Double.equalsInt (Float.ofInt n) m = (n == m) := by
  simp [Double.equalsInt, Double.isWhole_ofInt h, Double.truncate?_ofInt h]

theorem ofInt_beq_zero (h : n.natAbs < 2 ^ 53) : (Float.ofInt n == 0.0) = decide (n = 0) := by
  have hzero : (0.0 : Float) = Float.ofInt 0 := by decide
  rw [hzero, Double.beq_ofInt _ (by decide), equalsInt_ofInt h]
  rfl

theorem lt_pow_of_lt {k : Nat} (h : n.natAbs < 2 ^ 53) (hk : 53 ≤ k) : n.natAbs < Nat.pow 2 k :=
  h.trans_le (Nat.pow_le_pow_right (by decide) hk)

theorem intText?_of_lt (h : n.natAbs < 2 ^ 53) : intText? n = some (toString n) := by
  rw [intText?, if_pos (lt_pow_of_lt h (by decide))]

theorem doubleText_ofInt (h : n.natAbs < 2 ^ 53) : doubleText (Float.ofInt n) = toString n := by
  obtain ⟨_, _, _, hview⟩ := (Double.isFinite_iff _).mp (Double.isFinite_ofInt h)
  have hlt : n.natAbs < 10 ^ 21 := by omega
  simp only [doubleText, hview, whole?_ofInt h, Nat.pow_eq, if_pos hlt]

end Safe

theorem same_comm (a b : Number) : a.same b = b.same a := by
  cases a with
  | int a => cases b with
    | int b => exact BEq.comm
    | double b => rfl
  | double a => cases b with
    | int b => rfl
    | double b => exact Double.beq_comm a b

namespace Alike

variable {a b c d : Number}

theorem toFloat?_eq (h : Alike a b) : a.toFloat? = b.toFloat? :=
  h.congr fun _ hn => ofInt?_of_lt (lt_of_safe hn)

theorem whole?_eq (h : Alike a b) : a.whole? = b.whole? :=
  h.congr fun _ hn => (whole?_ofInt (lt_of_safe hn)).symm

theorem written?_eq (h : Alike a b) : a.written? = b.written? := by
  refine h.congr fun n hn => ?_
  have hlt := lt_of_safe hn
  rw [written?, intText?_of_lt hlt, written?, doubleText_ofInt hlt]

theorem settle_eq (h : Alike a b) : a.settle = b.settle := by
  refine h.congr fun n hn => ?_
  simp only [settle, whole?_ofInt (lt_of_safe hn), if_pos hn]

theorem same_left (h : Alike a b) (c : Number) : a.same c = b.same c := by
  refine h.congr (f := fun a => a.same c) fun n hn => ?_
  have hlt := lt_of_safe hn
  cases c with
  | int m => exact (equalsInt_ofInt hlt m).symm
  | double y => rw [same, same, ← Double.beq_ofInt y hlt, Double.beq_comm]

theorem same_eq (hab : Alike a b) (hcd : Alike c d) : a.same c = b.same d := by
  rw [hab.same_left, same_comm, hcd.same_left, same_comm]

end Alike

end Canvasflow.Number
