import Canvasflow.Proofs.Number.Nearest

/-!
# Decimal numerals are rounded correctly

A numeral of digits and an exponent is read as the double next to the number that it writes
(`roundsTo_nearest`). There are four ways: what is tiny or huge is told by the number of digits, a
short mantissa and a small power of ten are doubles and one operation rounds them, and else the
mantissa is multiplied with the power of ten or divided by it exactly.
-/

namespace Canvasflow.Double

open Float.Model Float.Model.UnpackedFloat

variable {m : Nat} {e : ℤ}

/-! ## Mantissas and powers of ten -/

theorem ten_zpow_pos (e : ℤ) : (0 : ℚ) < 10 ^ e :=
  zpow_pos (by norm_num) e

/-- Powers of ten and of two are compared by way of two fractions near the logarithm of two. -/
theorem ten_zpow_le_two_zpow {k t : ℤ} (h : 196 * k ≤ 59 * t) (h' : 93 * k ≤ 28 * t) :
    (10 : ℚ) ^ k ≤ 2 ^ t := by
  obtain ht | ht := le_total 0 t
  · obtain ⟨n, rfl⟩ := Int.eq_ofNat_of_zero_le ht
    refine le_of_pow_le_pow_left₀ (n := 196) (by decide) (two_zpow_pos _).le ?_
    calc ((10 : ℚ) ^ k) ^ 196 = 10 ^ (196 * k) := by rw [mul_comm, zpow_mul]; rfl
      _ ≤ 10 ^ (59 * (n : ℤ)) := zpow_le_zpow_right₀ (by norm_num) h
      _ = ((10 : ℚ) ^ 59) ^ n := by rw [zpow_mul, zpow_natCast]; rfl
      _ ≤ (2 ^ 196) ^ n := pow_le_pow_left₀ (by positivity) (by norm_num) n
      _ = (2 ^ (n : ℤ)) ^ 196 := by rw [zpow_natCast, pow_right_comm]
  · obtain ⟨n, hn⟩ := Int.eq_ofNat_of_zero_le (show 0 ≤ -t by omega)
    obtain rfl : t = -(n : ℤ) := by omega
    refine le_of_pow_le_pow_left₀ (n := 93) (by decide) (two_zpow_pos _).le ?_
    calc ((10 : ℚ) ^ k) ^ 93 = 10 ^ (93 * k) := by rw [mul_comm, zpow_mul]; rfl
      _ ≤ 10 ^ (28 * -(n : ℤ)) := zpow_le_zpow_right₀ (by norm_num) h'
      _ = (((10 : ℚ) ^ 28) ^ n)⁻¹ := by rw [mul_neg, zpow_neg, zpow_mul, zpow_natCast]; rfl
      _ ≤ ((2 ^ 93) ^ n)⁻¹ :=
        inv_anti₀ (by positivity) (pow_le_pow_left₀ (by positivity) (by norm_num) n)
      _ = (2 ^ (-(n : ℤ))) ^ 93 := by rw [zpow_neg, zpow_natCast, inv_pow, pow_right_comm]

theorem ten_zpow_of_eq_natCast {n : Nat} (h : e = n) : (10 : ℚ) ^ e = (10 ^ n : ℕ) := by
  rw [Nat.cast_pow, Nat.cast_ofNat, ← zpow_natCast, h]

theorem ten_zpow_of_eq_neg {n : Nat} (h : e = -n) : (10 : ℚ) ^ e = ((10 ^ n : ℕ) : ℚ)⁻¹ := by
  rw [Nat.cast_pow, Nat.cast_ofNat, ← zpow_natCast, ← zpow_neg, h]

/-- Shifting the mantissa to the left and the exponent down with it changes nothing. -/
theorem shiftLeft_mul_zpow (m shift : Nat) : ((m <<< shift : ℕ) : ℚ) * 2 ^ (-shift : ℤ) = m := by
  rw [Nat.shiftLeft_eq, Nat.cast_mul, Nat.cast_pow, Nat.cast_ofNat, mul_assoc, zpow_neg,
    zpow_natCast, mul_inv_cancel₀ (by positivity), mul_one]

/-- A mantissa and a power of ten become the rounded product, as long as the power is not beyond all
bounds. -/
theorem becomes_ofScientific (hm : 0 < m) (hhigh : e ≤ 2 ^ 11)
    (hlow : -(2 ^ 11 + m.log2 : ℤ) ≤ e) :
    Becomes (UnpackedFloat.ofScientific Format.binary64 m e) (m * 10 ^ e) := by
  have hbits : Format.binary64.exponentBits = 11 := rfl
  unfold UnpackedFloat.ofScientific
  rw [dif_neg hm.ne', if_neg (by rw [hbits]; omega), if_neg (by rw [hbits]; omega)]
  split
  · have hfull : 2 ^ 52 ≤ m <<< 53 * 10 ^ e.toNat :=
      calc 2 ^ 52 ≤ 1 * 2 ^ 53 * 1 := by decide
        _ ≤ m * 2 ^ 53 * 10 ^ e.toNat :=
          Nat.mul_le_mul (Nat.mul_le_mul_right _ hm) (Nat.pow_pos (by decide))
        _ = m <<< 53 * 10 ^ e.toNat := by rw [Nat.shiftLeft_eq]
    have hproduct := becomes_mul_finite .positive .positive (e := -53) (k := 0)
      (Nat.lt_of_lt_of_eq (Nat.mul_pos hm (Nat.two_pow_pos 53)) (Nat.shiftLeft_eq m 53).symm)
      (Nat.pow_pos (by decide)) (.inl hfull)
    have hmantissa : ((m <<< 53 : ℕ) : ℚ) * 2 ^ (-53 : ℤ) = m := shiftLeft_mul_zpow m 53
    rwa [signed_positive, signed_positive, zpow_zero, mul_one, hmantissa,
      ← ten_zpow_of_eq_natCast (Int.toNat_of_nonneg ‹0 ≤ e›).symm] at hproduct
  · have hquotient := becomes_div_finite .positive .positive 0 0 hm
      (Nat.pow_pos (n := (-e).toNat) (show 0 < 10 by decide))
    rwa [signed_positive, signed_positive, zpow_zero, mul_one, mul_one, div_eq_mul_inv,
      ← ten_zpow_of_eq_neg (e := e) (by omega)] at hquotient

theorem standsFor_toFloat (h : m < 2 ^ 53) : StandsFor m.toUInt64.toFloat m := by
  have hword : m.toUInt64.toNat = m := Nat.mod_eq_of_lt (by omega)
  have hrounds : RoundsTo m.toUInt64.toFloat ((m.toUInt64.toNat : ℤ) * 2 ^ (0 : ℤ)) :=
    becomes_normalize m.toUInt64.toNat 0
  rw [hword, zpow_zero, mul_one] at hrounds
  exact hrounds.exact (standsFor_ofInt (by simpa using h)).representable

/-- A power of ten is a power of five with another exponent of two. -/
theorem five_pow_mul_zpow (k shift : Nat) :
    ((5 ^ k * 2 ^ shift : ℕ) : ℚ) * 2 ^ (k - shift : ℤ) = (10 ^ k : ℕ) := by
  push_cast
  rw [mul_assoc, pow_mul_zpow, add_sub_cancel, zpow_natCast, ← mul_pow]
  norm_num

/-- The powers of ten in the table are doubles. -/
theorem standsFor_powerOfTen {k : Nat} (h : k < Float.exactlyRepresentablePowersOfTen.size) :
    StandsFor Float.exactlyRepresentablePowersOfTen[k] (10 ^ k : ℕ) := by
  have hviews : ∀ (k : Nat) (_ : k < Float.exactlyRepresentablePowersOfTen.size),
      view Float.exactlyRepresentablePowersOfTen[k] =
        .finite false (5 ^ k * 2 ^ lift (5 ^ k)) (k - lift (5 ^ k) : ℤ) := by
    decide
  have hview := hviews k h
  refine ⟨(isFinite_iff _).mpr ⟨_, _, _, hview⟩, (value_of_view hview).trans ?_⟩
  exact five_pow_mul_zpow k (lift (5 ^ k))

/-- A mantissa and a power of ten are read as the double next to their product: in one operation on
two doubles where the mantissa is short and the power small, exactly otherwise. -/
theorem roundsTo_ofScientific (hm : 0 < m) (hhigh : e ≤ 2 ^ 11)
    (hlow : -(2 ^ 11 + m.log2 : ℤ) ≤ e) :
    RoundsTo (Float.ofScientific m (decide (e < 0)) e.natAbs) (m * 10 ^ e) := by
  unfold Float.ofScientific
  split
  · rename_i hsmall
    obtain ⟨hmantissa, hvalue⟩ := standsFor_toFloat hsmall.1
    obtain ⟨hpower, hvalue'⟩ := standsFor_powerOfTen (Nat.lt_succ_of_le hsmall.2)
    simp only [decide_eq_true_eq]
    split
    · have hquotient := roundsTo_div hmantissa hpower (by rw [hvalue']; positivity)
      rwa [hvalue, hvalue', div_eq_mul_inv,
        ← ten_zpow_of_eq_neg (Int.eq_neg_natAbs_of_nonpos (Int.le_of_lt ‹e < 0›))] at hquotient
    · have hproduct := roundsTo_mul hmantissa hpower
      rwa [hvalue, hvalue',
        ← ten_zpow_of_eq_natCast (Int.eq_natAbs_of_nonneg (Int.not_lt.mp ‹¬e < 0›))] at hproduct
  · have hexponent : (if decide (e < 0) = true then Int.negOfNat e.natAbs
        else Int.ofNat e.natAbs) = e := by
      simp only [decide_eq_true_eq, Int.negOfNat_eq, Int.ofNat_eq_natCast]
      split <;> omega
    simp only [hexponent]
    exact becomes_ofScientific hm hhigh hlow

/-! ## Numerals -/

/-- A whole number begins with as many powers of ten as it has digits. -/
theorem length_toDigits_bounds (hm : 0 < m) :
    ∃ n : Nat, (Nat.toDigits 10 m).length = n + 1 ∧ 10 ^ n ≤ m ∧ m < 10 ^ (n + 1) := by
  obtain ⟨n, hn⟩ := Nat.exists_eq_add_of_le' (Nat.length_toDigits_pos (b := 10) (n := m))
  refine ⟨n, hn, ?_, (Nat.length_toDigits_le_iff (by decide) n.succ_pos).mp hn.le⟩
  obtain rfl | hpos := Nat.eq_zero_or_pos n
  · exact hm
  · refine Nat.not_lt.mp fun hlt => ?_
    have := (Nat.length_toDigits_le_iff (by decide) hpos).mpr hlt
    omega

theorem roundsTo_zero : RoundsTo 0.0 0 := by
  have hzero : RoundsTo 0.0 (value 0.0) := roundsTo_value (by decide)
  rwa [show (0.0 : Float) = 0 by decide, value_zero] at hzero

/-- A numeral is read as the double next to the number that it writes. -/
theorem roundsTo_nearest (m : Nat) (k : ℤ) : RoundsTo (Numeral.nearest m k) (m * 10 ^ k) := by
  obtain rfl | hm := Nat.eq_zero_or_pos m
  · rw [Nat.cast_zero, zero_mul]
    exact roundsTo_zero
  obtain ⟨n, hlength, hlow, hhigh⟩ := length_toDigits_bounds hm
  have hten : (10 : ℚ) ≠ 0 := by norm_num
  have hlow' : (10 : ℚ) ^ (n + k) ≤ m * 10 ^ k := by
    rw [zpow_add₀ hten, zpow_natCast]
    exact mul_le_mul_of_nonneg_right (by exact_mod_cast hlow) (ten_zpow_pos k).le
  have hhigh' : m * 10 ^ k < (10 : ℚ) ^ ((n + 1 : ℕ) + k) := by
    rw [zpow_add₀ hten, zpow_natCast]
    exact mul_lt_mul_of_pos_right (by exact_mod_cast hhigh) (ten_zpow_pos k)
  have hpos : (0 : ℚ) < m * 10 ^ k := (ten_zpow_pos _).trans_le hlow'
  unfold Numeral.nearest
  simp only [hlength, hm.ne', false_or]
  split
  · have htiny : nearest (m * 10 ^ k) = 0 := by
      refine nearest_of_tiny hpos.le (hhigh'.trans_le ?_)
      exact ten_zpow_le_two_zpow (by omega) (by omega)
    exact roundsTo_zero.of_nearest_eq (nearest_zero.trans htiny.symm)
      (iff_of_false (lt_irrefl 0) hpos.not_gt)
  · split
    · have hhuge : 2 ^ 1024 ≤ nearest (m * 10 ^ k) := by
        refine le_nearest_of_huge ?_
        calc (2 : ℚ) ^ 1024 = 2 ^ (93 * 11) * 2 := by rw [← pow_succ]
          _ ≤ 10 ^ (28 * 11) * 10 := by
            refine mul_le_mul ?_ (by norm_num) (by norm_num) (by positivity)
            exact_mod_cast two_pow_le_ten_pow 11
          _ = 10 ^ (309 : ℤ) := by rw [← pow_succ]; rfl
          _ ≤ 10 ^ (n + k) := zpow_le_zpow_right₀ (by norm_num) (by omega)
          _ ≤ m * 10 ^ k := hlow'
      refine ⟨fun hsmall => ?_, fun _ => ?_⟩
      · exact absurd ((le_abs_self _).trans_lt hsmall) (not_lt.mpr hhuge)
      · rw [decide_eq_false hpos.not_gt]
        decide
    · have hbits : n ≤ m.log2 :=
        (Nat.le_log2 hm.ne').mpr ((Nat.pow_le_pow_left (by decide) n).trans hlow)
      have hnumeral := roundsTo_ofScientific (e := k) hm (by omega) (by omega)
      split
      · rwa [decide_eq_true ‹k < 0›] at hnumeral
      · rwa [decide_eq_false ‹¬k < 0›] at hnumeral

end Canvasflow.Double
