import Canvasflow.Proofs.Program.LikeRuns
import Canvasflow.Proofs.Text.CaseWeight

/-!
# Runs within bounds

A state is within bounds when its numbers are of a kind and its texts and lists are of limited
length, keys of records included. Every operation that builds a text checks its length, apart from
the case maps, and these add nothing to the weight of a text. So texts are limited by their weight,
which is up to three times the length, and lists by one more, for the pieces into which a text is
split.
-/

namespace Canvasflow.Program

open Text

/-- States whose numbers are of a kind, whose texts have at most three times a limit in characters
and whose lists have at most one item more, under operations that fail only in some ways. The two
states are the same. -/
def Likeness.within (limit : Nat) (num : Number → Prop) (fails : Failure → Prop) : Likeness where
  num a b := a = b ∧ num a
  text text := weight text ≤ 3 * limit
  size n := n ≤ 3 * limit + 1
  keys keys := ∀ key ∈ keys, weight key ≤ 3 * limit
  fails := fails

/-- What a kind of numbers and some ways to fail need to be kept: doubles, counts and whole numbers
are of the kind, and a number of the kind has a double and a text unless the failure is allowed. -/
structure Likeness.Closed (limit : Nat) (num : Number → Prop) (fails : Failure → Prop) : Prop where
  large : maxLength ≤ limit
  double (x : Float) : num (.double x)
  missing : num (.int (-1))
  sized {n : Nat} : n ≤ 3 * limit + 1 → num (.int n)
  settle {a : Number} : num a → num a.settle
  program (fault : ProgramFault) : fails (.program fault)
  tooDeep : fails .tooDeep
  overflow {a : Number} : num a → a.toFloat? = none → fails .overflow
  unwritten {a : Number} : num a → a.written? = none → fails .badValue

namespace Likeness

variable {limit : Nat} {num : Number → Prop} {fails : Failure → Prop}

theorem within_text {text : String} (h : text.length ≤ limit) :
    (within limit num fails).text text :=
  (weight_bounds text).2.trans (Nat.mul_le_mul_left 3 h)

theorem within_lawful (h : Closed limit num fails) : (within limit num fails).Lawful where
  nil := by simp [within]
  add hkeys hkey _ := by simpa [within, or_imp, forall_and] using ⟨hkeys, hkey⟩
  take hkeys hothers hkey _ := by
    simpa [within, or_imp, forall_and] using ⟨hkeys, hothers _ hkey⟩
  drop hkeys hfewer key hkey := hkeys key (hfewer.subset hkey)
  double x := ⟨rfl, h.double x⟩
  toFloat? hab := by rw [hab.1]
  whole? hab := by rw [hab.1]
  written? hab := by rw [hab.1]
  same hab hcd := by rw [hab.1, hcd.1]
  truthy hab := by rw [hab.1]
  count hab := by rw [hab.1]
  settle hab := by rw [← hab.1]; exact ⟨rfl, rfl, h.settle hab.2⟩
  missing := ⟨rfl, h.missing⟩
  sized hn := ⟨rfl, h.sized hn⟩
  size_le hn hle := hle.trans hn
  size_max := by
    have := h.large
    change maxLength ≤ 3 * limit + 1
    omega
  chars {text} htext := by
    have := (weight_bounds text).1
    change text.length ≤ 3 * limit + 1
    change weight text ≤ 3 * limit at htext
    omega
  text_max hlength := within_text (hlength.trans h.large)
  part {text chars} htext hpart := by
    refine le_trans ?_ htext
    simpa [weight] using charsWeight_sublist hpart
  program := h.program
  tooDeep := h.tooDeep
  overflow hab hnone := h.overflow hab.2 hnone
  unwritten hab hnone := h.unwritten hab.2 hnone

theorem within_lengthening : (within limit num fails).Lengthening where
  upper {text} htext := (weight_upper_le text).trans htext
  lower {text} htext := (weight_lower_le text).trans htext
  pieces {text} htext := by
    have := (weight_bounds text).1
    change text.length + 1 ≤ 3 * limit + 1
    change weight text ≤ 3 * limit at htext
    omega

end Likeness

end Canvasflow.Program
