import Canvasflow.Number
import Canvasflow.Proofs.Number.Unpacked

/-!
# The lengths of written numbers

However large an integer is and however small a double, its text has a bounded length: an integer
with too many digits is not written at all (`intText?_length`), the shortest decimal of a double has
a bounded exponent (`shortest_small`), and the fixed form has a bounded number of places
(`fixedPlaces_length`). The bounds are generous; what counts is that they lie far below the greatest
length of a text.
-/

namespace Canvasflow.Number

/-- A number of few bits has few digits. -/

theorem lt_ten_pow {n k : Nat} (h : n < 2 ^ k) : n < 10 ^ k :=
  h.trans_le (Nat.pow_le_pow_left (by decide) k)

theorem length_toString_le (n : Int) : (toString n).length ≤ n.natAbs.repr.length + 1 := by
  cases n with
  | ofNat n => exact Nat.le_succ _
  | negSucc n =>
    change ("-" ++ (n.succ).repr).length ≤ _
    rw [String.length_append, Nat.add_comm]
    exact le_rfl

theorem length_toString_le_of_lt {n : Int} {k : Nat} (hk : 0 < k) (h : n.natAbs < 10 ^ k) :
    (toString n).length ≤ k + 1 :=
  (length_toString_le n).trans (Nat.succ_le_succ ((Nat.length_repr_le_iff hk).mpr h))

/-- No number has a longer text. -/
def textLimit : Nat := 20000

theorem intText?_length {n : Int} {text : String} (h : intText? n = some text) :
    text.length ≤ textLimit := by
  unfold intText? at h
  split at h
  · rename_i hlt
    cases h
    exact (length_toString_le_of_lt (k := 14000) (by decide) (lt_ten_pow hlt)).trans (by decide)
  · simp only [Option.ite_none_right_eq_some, Option.some.injEq] at h
    obtain ⟨hle, rfl⟩ := h
    exact (length_toString_le n).trans ((Nat.succ_le_succ hle).trans (by decide))

end Canvasflow.Number

namespace Canvasflow.Double

open Canvasflow.Number

theorem length_decimalDigits_le {n k : Nat} (hk : 0 < k) (h : n < 10 ^ k) :
    (decimalDigits n).length ≤ k :=
  (Nat.length_toDigits_le_iff (by decide) hk).mpr h

theorem length_padZeros (width : Nat) (digits : List Char) :
    (padZeros width digits).length = max width digits.length := by
  simp only [padZeros, List.length_append, List.length_replicate]
  omega

/-- A decimal of bounded digits and exponent. -/
structure Decimal.Small (decimal : Decimal) : Prop where
  digits : (decimalDigits decimal.digits).length ≤ 1400
  lowest : -400 ≤ decimal.exponent
  highest : decimal.exponent ≤ 400

theorem Layout.length_write_le {decimal : Decimal} (h : decimal.Small) :
    (plainLayout.write decimal).length ≤ 2000 := by
  obtain ⟨hdigits, hlow, hhigh⟩ := h
  unfold Layout.write
  dsimp only
  generalize decimalDigits decimal.digits = digits at *
  split
  · split
    · simp only [List.length_append, List.length_replicate, List.length_cons, List.length_nil]
      omega
    · simp only [List.length_append, List.length_cons, List.length_take, List.length_drop,
        length_padZeros]
      omega
  · have hplace : (decimal.exponent + (digits.length : Int) - 1).natAbs < 10 ^ 4 := by omega
    have hwidth := length_decimalDigits_le (by decide) hplace
    generalize decimalDigits _ = exponent at hwidth ⊢
    rcases digits with _ | ⟨first, _ | ⟨second, rest⟩⟩ <;>
      simp only [List.length_append, List.length_cons, List.length_nil, length_padZeros,
        plainLayout] at hdigits ⊢ <;> omega

theorem length_decimalDigits_mono {m n : Nat} (h : m ≤ n) :
    (decimalDigits m).length ≤ (decimalDigits n).length := by
  have hpos : 0 < (decimalDigits n).length := Nat.length_toDigits_pos
  have hn := (Nat.length_toDigits_le_iff (b := 10) (n := n) (by decide) hpos).mp le_rfl
  exact length_decimalDigits_le hpos (lt_of_le_of_lt h hn)

theorem Decimal.Small.stripZeros {decimal : Decimal} {steps : Nat}
    (hdigits : (decimalDigits decimal.digits).length ≤ 1400) (hlow : -400 ≤ decimal.exponent)
    (hhigh : decimal.exponent + steps ≤ 400) : (Decimal.stripZeros steps decimal).Small := by
  induction steps generalizing decimal with
  | zero => exact ⟨hdigits, hlow, by simpa [Decimal.stripZeros] using hhigh⟩
  | succ steps ih =>
    unfold Decimal.stripZeros
    split
    · refine ih ((length_decimalDigits_mono (Nat.div_le_self _ _)).trans hdigits) ?_ ?_
      all_goals
        dsimp only
        omega
    · exact ⟨hdigits, hlow, by omega⟩

theorem decimalPlace_bounds {m : Nat} {e : Int} (h : Canonical m e) :
    -325 ≤ decimalPlace m e ∧ decimalPlace m e ≤ 310 := by
  obtain ⟨hbelow, hlow, hhigh, -⟩ := h
  have hlog : m.log2 < 53 := by
    by_cases hm : m = 0
    · simp [hm]
    · exact (Nat.log2_lt hm).mpr hbelow
  unfold decimalPlace
  dsimp only
  split
  · omega
  · split <;> omega

/-- The digits that are tried lie next to the double on a grid of bounded step. -/
theorem hit?_length {m : Nat} {e k : Int} (h : Canonical m e) (hk : -341 ≤ k) {d : Nat}
    (hd : (neighbourhood m e).hit? k = some d) : (decimalDigits d).length ≤ 1400 := by
  obtain ⟨hbelow, hlow, hhigh, -⟩ := h
  have hbox : (neighbourhood m e).middle < 2 ^ 55 := by
    change 4 * m < 2 ^ 55
    omega
  have hexponent : (neighbourhood m e).exponent.toNat ≤ 969 := by
    change (e - 2).toNat ≤ 969
    omega
  generalize neighbourhood m e = box at *
  -- a power of ten for each power of two is far too much, but enough for a bound
  have hscaled : box.middle * Nat.pow 2 box.exponent.toNat * Nat.pow 10 (-k).toNat <
      10 ^ (55 + box.exponent.toNat + (-k).toNat) := by
    rw [Nat.pow_add, Nat.pow_add]
    refine Nat.mul_lt_mul_of_lt_of_le ?_ le_rfl (by positivity)
    exact Nat.mul_lt_mul_of_lt_of_le (lt_ten_pow hbox) (Nat.pow_le_pow_left (by decide) _)
      (by positivity)
  have hquotient : ∀ divisor, box.middle * Nat.pow 2 box.exponent.toNat * Nat.pow 10 (-k).toNat /
      divisor + 1 < 10 ^ (55 + box.exponent.toNat + (-k).toNat + 1) := by
    intro divisor
    have hle := Nat.div_le_self (box.middle * Nat.pow 2 box.exponent.toNat * Nat.pow 10 (-k).toNat)
      divisor
    rw [Nat.pow_succ]
    omega
  have hd' : d < 10 ^ (55 + box.exponent.toNat + (-k).toNat + 1) := by
    unfold Neighbourhood.hit? at hd
    dsimp only at hd
    specialize hquotient (Nat.pow 10 k.toNat * Nat.pow 2 (-box.exponent).toNat)
    generalize box.middle * _ * _ / _ = q at *
    split at hd
    · cases hd
      split <;> omega
    · cases hd; omega
    · cases hd; omega
    · cases hd
  exact (length_decimalDigits_le (by omega) hd').trans (by omega)

/-- The shortest decimal of a double is small. -/
theorem shortest_small {m : Nat} {e : Int} (h : Canonical m e) : (shortest m e).Small := by
  have hplace := decimalPlace_bounds h
  have hfound (found : Option Decimal) (hfound : ∀ decimal, found = some decimal →
      (decimalDigits decimal.digits).length ≤ 1400 ∧ -341 ≤ decimal.exponent ∧
        decimal.exponent ≤ 310) : ((found.getD ⟨m, 0⟩).stripZeros 20).Small := by
    cases found with
    | none =>
      -- if no decimal were close enough, the mantissa itself would be written
      have hm : (decimalDigits m).length ≤ 53 :=
        length_decimalDigits_le (by decide) (lt_ten_pow h.below)
      exact Decimal.Small.stripZeros (hm.trans (by decide)) (by simp) (by simp)
    | some decimal =>
      obtain ⟨hdigits, hlow, hhigh⟩ := hfound decimal rfl
      exact Decimal.Small.stripZeros hdigits (by simp; omega) (by simp; omega)
  unfold shortest
  refine hfound _ fun decimal hdecimal => ?_
  obtain ⟨count, hcount, hsome⟩ := List.exists_of_findSome?_eq_some hdecimal
  rw [List.mem_range] at hcount
  simp only [Option.map_eq_some_iff] at hsome
  obtain ⟨d, hd, rfl⟩ := hsome
  exact ⟨hit?_length h (by omega) hd, by dsimp only; omega, by dsimp only; omega⟩

theorem plain_length (x : Float) : (plain x).length ≤ 2001 := by
  unfold plain
  cases hview : view x with
  | notANumber => decide
  | infinite negative => cases negative <;> decide
  | finite negative m e =>
    have hwrite := Layout.length_write_le (shortest_small (view_canonical hview))
    have hmagnitude : (if m = 0 then ['0', '.', '0'] else plainLayout.write (shortest m e)).length ≤
        2000 := by
      split
      · decide
      · exact hwrite
    dsimp only
    rw [String.length_ofList]
    split
    · exact Nat.succ_le_succ hmagnitude
    · exact Nat.le_succ_of_le hmagnitude

theorem fixedPlaces_length (x : Float) {places : Nat} (hplaces : places ≤ 100) :
    (fixedPlaces x places).length ≤ 2000 := by
  unfold fixedPlaces
  cases hview : view x with
  | notANumber => exact (by decide : "nan".length ≤ 2000)
  | infinite negative =>
    cases negative
    · exact (by decide : "inf".length ≤ 2000)
    · exact (by decide : "-inf".length ≤ 2000)
  | finite negative m e =>
    obtain ⟨hbelow, hlow, hhigh, -⟩ := view_canonical hview
    dsimp only
    rw [String.length_ofList]
    have hnumerator : m * Nat.pow 2 e.toNat * Nat.pow 10 places <
        10 ^ (53 + e.toNat + places) := by
      rw [Nat.pow_add, Nat.pow_add]
      refine Nat.mul_lt_mul_of_lt_of_le ?_ le_rfl (by positivity)
      exact Nat.mul_lt_mul_of_lt_of_le (lt_ten_pow hbelow) (Nat.pow_le_pow_left (by decide) _)
        (by positivity)
    generalize m * Nat.pow 2 e.toNat * Nat.pow 10 places = numerator at *
    have hscaled (denominator : Nat) :
        divideRoundEven numerator denominator < 10 ^ (53 + e.toNat + places + 1) := by
      have hle := Nat.div_le_self numerator denominator
      rw [Nat.pow_succ]
      unfold divideRoundEven
      dsimp only
      split
      · omega
      · split <;> omega
    have hdigits := length_decimalDigits_le (by omega) (hscaled (Nat.pow 2 (-e).toNat))
    generalize decimalDigits _ = digits at *
    split <;> split <;>
      simp only [List.length_append, List.length_cons, List.length_nil, List.length_take,
        List.length_drop, length_padZeros] <;> omega

end Canvasflow.Double

namespace Canvasflow.Number

open Canvasflow.Double

theorem doubleText_length (x : Float) : (doubleText x).length ≤ 2001 := by
  unfold doubleText
  split
  · decide
  · split <;> decide
  · split
    · split
      · rename_i hlt
        exact (length_toString_le_of_lt (by decide) hlt).trans (by decide)
      · exact plain_length x
    · exact plain_length x

/-- The text of a number is short. -/
theorem written?_length {number : Number} {text : String} (h : number.written? = some text) :
    text.length ≤ textLimit := by
  cases number with
  | int n => exact intText?_length h
  | double x =>
    cases h
    exact (doubleText_length x).trans (by decide)

end Canvasflow.Number
