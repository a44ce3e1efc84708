import Canvasflow.Proofs.Number.Values

/-!
# Arithmetic on doubles

A sum, a difference, a product or a quotient of finite doubles is the double next to the exact
result (`roundsTo_add`, `roundsTo_sub`, `roundsTo_mul`, `roundsTo_div`). So arithmetic is monotone
as far as it stays finite.
-/

namespace Canvasflow.Double

open Float.Model Float.Model.UnpackedFloat

/-! ## Arithmetic on unpacked doubles -/

/-- A mantissa is made longer for a lesser exponent, and stands for the same number. -/
theorem decreaseExponent_eq (m : Nat) (e target : ℤ) :
    ∃ n k, decreaseExponent m e target = (n, k) ∧ k = min e target ∧
      (n : ℚ) * 2 ^ k = m * 2 ^ e := by
  refine ⟨_, _, rfl, by omega, ?_⟩
  rw [Nat.shiftLeft_eq]
  push_cast
  rw [mul_assoc, pow_mul_zpow]
  congr 2
  omega

/-- Rounding a mantissa and an exponent gives the rounded number. -/
theorem round_nearest (sign : Sign) {m : Nat} (hm : 0 < m) (e : ℤ) :
    Rounds sign (m * 2 ^ e) (UnpackedFloat.round Format.binary64 sign m e) := by
  have hq : (0 : ℚ) < m * 2 ^ e := mul_pos (by exact_mod_cast hm) (two_zpow_pos e)
  have htarget : Format.binary64.targetExponent (totalExponent m e) = lastPlace (m * 2 ^ e) := by
    simp only [Format.targetExponent, totalExponent, Format.mantissaBits, Format.minExponent,
      lastPlace, log_mantissa hm]
    push_cast
    omega
  obtain ⟨n, k, hdecrease, hk, hvalue⟩ := decreaseExponent_eq m e (lastPlace (m * 2 ^ e))
  unfold UnpackedFloat.round
  simp only [htarget, hdecrease]
  refine roundWithAccuracy_nearest sign hq ?_ (by omega)
  rw [← hvalue, mul_div_cancel_right₀ _ (two_zpow_pos k).ne']
  exact describes_exact n

theorem becomes_normalize (z : ℤ) (e : ℤ) :
    Becomes (UnpackedFloat.normalize Format.binary64 z e .positive) (z * 2 ^ e) := by
  unfold UnpackedFloat.normalize
  rcases lt_trichotomy z 0 with h | rfl | h
  · have hcast : (((-z).toNat : ℕ) : ℚ) = -z := by
      rw [show ((-z).toNat : ℚ) = (((-z).toNat : ℤ) : ℚ) by norm_cast,
        Int.toNat_of_nonneg (by omega)]
      push_cast
      rfl
    have hround := round_nearest .negative (show 0 < (-z).toNat by omega) e
    rw [compare_lt_iff_lt.mpr h]
    have hbecomes := hround.becomes (by positivity)
    rw [hcast] at hbecomes
    simpa [signed] using hbecomes
  · simpa using becomes_zero .positive nearest_zero
  · have hcast : ((z.toNat : ℕ) : ℚ) = z := by
      rw [show (z.toNat : ℚ) = ((z.toNat : ℤ) : ℚ) by norm_cast, Int.toNat_of_nonneg (by omega)]
    have hround := round_nearest .positive (show 0 < z.toNat by omega) e
    rw [compare_gt_iff_gt.mpr h]
    have hbecomes := hround.becomes (by positivity)
    rw [hcast] at hbecomes
    simpa [signed] using hbecomes

theorem valueOf_finite (sign : Sign) {m : Nat} (e : ℤ) (hm : 0 < m) :
    valueOf (.finite sign m e hm) = signed sign (m * 2 ^ e) := by
  simp only [valueOf, View.ofUnpacked, View.value, signed]

theorem valueOf_zero (sign : Sign) : valueOf (.zero sign) = 0 := by
  simp [valueOf, View.ofUnpacked, View.value]

theorem apply_eq_signed (sign : Sign) (m : Nat) (e : ℤ) :
    ((sign.apply m : ℤ) : ℚ) * 2 ^ e = signed sign (m * 2 ^ e) := by
  cases sign <;> simp [Sign.apply, signed]

/-- A sum becomes the rounded sum. -/
theorem becomes_add {u v : UnpackedFloat} (hu : Rounded u) (hv : Rounded v)
    (hfinite : u.isFinite = true) (hfinite' : v.isFinite = true) :
    Becomes (UnpackedFloat.add Format.binary64 u v) (valueOf u + valueOf v) := by
  obtain ⟨s, rfl⟩ | ⟨s, m, e, hm, rfl⟩ := finite_cases hfinite <;>
    obtain ⟨t, rfl⟩ | ⟨t, n, k, hn, rfl⟩ := finite_cases hfinite'
  · rw [valueOf_zero, valueOf_zero, add_zero, UnpackedFloat.add]
    split <;> exact becomes_zero _ nearest_zero
  · rw [valueOf_zero, zero_add]
    exact becomes_of_rounded hv hfinite'
  · rw [valueOf_zero, add_zero]
    exact becomes_of_rounded hu hfinite
  · obtain ⟨m', _, hm', rfl, hvalue⟩ := decreaseExponent_eq m e (min e k)
    obtain ⟨n', _, hn', rfl, hvalue'⟩ := decreaseExponent_eq n k (min e k)
    rw [min_eq_right (min_le_left e k)] at hm' hvalue
    rw [min_eq_right (min_le_right e k)] at hn' hvalue'
    have hsum := becomes_normalize (s.apply m' + t.apply n') (min e k)
    rw [Int.cast_add, add_mul, apply_eq_signed, apply_eq_signed, hvalue, hvalue'] at hsum
    rw [valueOf_finite, valueOf_finite, UnpackedFloat.add]
    simpa only [hm', hn'] using hsum

/-- A difference is the sum with the negated number. -/
theorem sub_eq_add (u v : UnpackedFloat) :
    UnpackedFloat.sub Format.binary64 u v = UnpackedFloat.add Format.binary64 u v.neg := by
  have happly (sign : Sign) (z : ℤ) : (-sign).apply z = -sign.apply z := by
    cases sign
    · exact (Int.neg_neg z).symm
    · rfl
  cases u <;> cases v <;>
    simp only [UnpackedFloat.sub, UnpackedFloat.add, UnpackedFloat.neg, happly, Int.sub_eq_add_neg]

theorem valueOf_neg (u : UnpackedFloat) : valueOf u.neg = -valueOf u := by
  cases u with
  | notANumber => simp [UnpackedFloat.neg, valueOf, View.ofUnpacked, View.value]
  | infinity sign => simp [UnpackedFloat.neg, valueOf, View.ofUnpacked, View.value]
  | zero sign => simp [UnpackedFloat.neg, valueOf_zero]
  | finite sign m e hm =>
    rw [UnpackedFloat.neg, valueOf_finite, valueOf_finite]
    cases sign
    · exact (neg_neg _).symm
    · rfl

theorem signed_mul (s t : Sign) (p q : ℚ) : signed (s * t) (p * q) = signed s p * signed t q := by
  cases s <;> cases t
  · exact (neg_mul_neg p q).symm
  · exact (neg_mul p q).symm
  · exact (mul_neg p q).symm
  · rfl

/-- The product of mantissas is rounded to the product, unless it has too few digits. -/
theorem mul_rounds (sign : Sign) {m n : Nat} {e k : ℤ} (hm : 0 < m) (hn : 0 < n)
    (h : 2 ^ 52 ≤ m * n ∨ e + k ≤ -1074) :
    Rounds sign (m * 2 ^ e * (n * 2 ^ k))
      (roundWithAccuracy Format.binary64 sign (m * n) (e + k) .exact) := by
  have hpos : 0 < m * n := Nat.mul_pos hm hn
  have hproduct : (m : ℚ) * 2 ^ e * (n * 2 ^ k) = (m * n : ℕ) * 2 ^ (e + k) := by
    rw [zpow_add₀ two_ne_zero]
    push_cast
    ring
  rw [hproduct]
  refine roundWithAccuracy_nearest sign (mul_pos (by exact_mod_cast hpos) (two_zpow_pos _)) ?_ ?_
  · rw [mul_div_cancel_right₀ _ (two_zpow_pos _).ne']
    exact describes_exact _
  · simp only [lastPlace, log_mantissa hpos]
    rcases h with hfull | hlow
    · have := (Nat.le_log2 hpos.ne').mpr hfull
      omega
    · omega

/-- A product of numbers with enough digits becomes the rounded product. -/
theorem becomes_mul_finite (s t : Sign) {m n : Nat} {e k : ℤ} (hm : 0 < m) (hn : 0 < n)
    (h : 2 ^ 52 ≤ m * n ∨ e + k ≤ -1074) :
    Becomes (UnpackedFloat.mul Format.binary64 (.finite s m e hm) (.finite t n k hn))
      (signed s (m * 2 ^ e) * signed t (n * 2 ^ k)) := by
  have hbecomes := (mul_rounds (s * t) hm hn h).becomes (by positivity)
  rwa [signed_mul] at hbecomes

/-- A product becomes the rounded product. -/
theorem becomes_mul {u v : UnpackedFloat} (hu : Rounded u) (hv : Rounded v)
    (hfinite : u.isFinite = true) (hfinite' : v.isFinite = true) :
    Becomes (UnpackedFloat.mul Format.binary64 u v) (valueOf u * valueOf v) := by
  obtain ⟨s, rfl⟩ | ⟨s, m, e, hm, rfl⟩ := finite_cases hfinite <;>
    obtain ⟨t, rfl⟩ | ⟨t, n, k, hn, rfl⟩ := finite_cases hfinite'
  · exact becomes_zero _ (by rw [valueOf_zero, zero_mul, nearest_zero])
  · exact becomes_zero _ (by rw [valueOf_zero, zero_mul, nearest_zero])
  · exact becomes_zero _ (by rw [valueOf_zero, mul_zero, nearest_zero])
  · have hdigits : 2 ^ 52 ≤ m * n ∨ e + k ≤ -1074 := by
      have hm' := hu s m e hm rfl
      have hn' := hv t n k hn rfl
      rcases hm'.full with hfull | hlow
      · exact .inl (hfull.trans (Nat.le_mul_of_pos_right m hn))
      · rcases hn'.full with hfull | hlow'
        · exact .inl (hfull.trans (Nat.le_mul_of_pos_left n hm))
        · exact .inr (by omega)
    rw [valueOf_finite, valueOf_finite]
    exact becomes_mul_finite s t hm hn hdigits

theorem signed_div (s t : Sign) (p q : ℚ) : signed (s / t) (p / q) = signed s p / signed t q := by
  cases s <;> cases t
  · exact (neg_div_neg_eq p q).symm
  · exact (neg_div q p).symm
  · exact (div_neg p).symm
  · rfl

/-- Mantissas are divided with enough digits to round the quotient. -/
theorem divCore_rounds (sign : Sign) {m n : Nat} (hm : 0 < m) (hn : 0 < n) (e k : ℤ) :
    ∃ quotient place accuracy, divCore Format.binary64 m e n k = (quotient, place, accuracy) ∧
      Rounds sign (m * 2 ^ e / (n * 2 ^ k))
        (roundWithAccuracy Format.binary64 sign quotient place accuracy) := by
  have hdividend : (0 : ℚ) < m * 2 ^ e := mul_pos (by exact_mod_cast hm) (two_zpow_pos e)
  have hdivisor : (0 : ℚ) < n * 2 ^ k := mul_pos (by exact_mod_cast hn) (two_zpow_pos k)
  have hn' : (n : ℚ) ≠ 0 := by exact_mod_cast hn.ne'
  refine ⟨_, _, _, rfl, roundWithAccuracy_nearest sign (div_pos hdividend hdivisor) ?_ ?_⟩
  all_goals
    generalize hplace : min (e - k) (Format.binary64.targetExponent
      (totalExponent m e - totalExponent n k)) = place
  · obtain ⟨shift, hshift⟩ := Int.le.dest (show place ≤ e - k by omega)
    rw [show (e - k - place).toNat = shift by omega, Nat.shiftLeft_eq]
    have hquotient : (m : ℚ) * 2 ^ e / (n * 2 ^ k) / 2 ^ place =
        ((m * 2 ^ shift / n : ℕ) : ℚ) + ((m * 2 ^ shift % n : ℕ) : ℚ) / n := by
      have hdivmod : ((m * 2 ^ shift / n : ℕ) : ℚ) * n + ((m * 2 ^ shift % n : ℕ) : ℚ) =
          m * 2 ^ shift := by
        exact_mod_cast Nat.div_add_mod' (m * 2 ^ shift) n
      rw [← mul_div_cancel_right₀ ((m * 2 ^ shift / n : ℕ) : ℚ) hn', ← add_div, hdivmod,
        show e = shift + (place + k) by omega, ← pow_mul_zpow, zpow_add₀ two_ne_zero]
      have := (two_zpow_pos place).ne'
      have := (two_zpow_pos k).ne'
      field_simp
    rw [hquotient]
    exact describes_fraction _ (Nat.mod_lt _ hn)
  · -- The quotient has at most one digit less than the exponents promise.
    have hlog : (m.log2 : ℤ) + e - (n.log2 + 1 + k) ≤
        Int.log 2 ((m : ℚ) * 2 ^ e / (n * 2 ^ k)) := by
      rw [← Int.zpow_le_iff_le_log (by decide) (div_pos hdividend hdivisor), Nat.cast_ofNat,
        zpow_sub₀ two_ne_zero]
      refine div_le_div₀ hdividend.le ?_ hdivisor ?_
      · rw [← pow_mul_zpow]
        refine mul_le_mul_of_nonneg_right ?_ (two_zpow_pos e).le
        exact_mod_cast Nat.log2_self_le hm.ne'
      · rw [show (n.log2 : ℤ) + 1 + k = (n.log2 + 1 : ℕ) + k by push_cast; rfl, ← pow_mul_zpow]
        refine mul_le_mul_of_nonneg_right ?_ (two_zpow_pos k).le
        exact_mod_cast (Nat.lt_log2_self (n := n)).le
    simp only [Format.targetExponent, totalExponent, Format.mantissaBits,
      Format.minExponent] at hplace
    simp only [lastPlace]
    push_cast at hplace
    omega

theorem becomes_div_finite (s t : Sign) {m n : Nat} (e k : ℤ) (hm : 0 < m) (hn : 0 < n) :
    Becomes (UnpackedFloat.div Format.binary64 (.finite s m e hm) (.finite t n k hn))
      (signed s (m * 2 ^ e) / signed t (n * 2 ^ k)) := by
  obtain ⟨quotient, place, accuracy, hcore, hround⟩ := divCore_rounds (s / t) hm hn e k
  have hbecomes := hround.becomes (by positivity)
  rw [signed_div] at hbecomes
  rw [UnpackedFloat.div]
  simpa only [hcore] using hbecomes

/-- A quotient becomes the rounded quotient. -/
theorem becomes_div {u v : UnpackedFloat} (hfinite : u.isFinite = true)
    (hfinite' : v.isFinite = true) (hne : valueOf v ≠ 0) :
    Becomes (UnpackedFloat.div Format.binary64 u v) (valueOf u / valueOf v) := by
  obtain ⟨t, rfl⟩ | ⟨t, n, k, hn, rfl⟩ := finite_cases hfinite'
  · exact absurd (valueOf_zero t) hne
  obtain ⟨s, rfl⟩ | ⟨s, m, e, hm, rfl⟩ := finite_cases hfinite
  · rw [valueOf_zero, zero_div]
    exact becomes_zero _ nearest_zero
  · rw [valueOf_finite, valueOf_finite]
    exact becomes_div_finite s t e k hm hn

/-! ## Operations on doubles -/

section Operations

variable {x y : Float}

/-- Only finite numbers are packed to finite doubles. -/
theorem isFinite_of_pack {u : UnpackedFloat} (h : (Float.ofModel (.pack u)).isFinite = true) :
    u.isFinite = true := by
  cases u with
  | notANumber => revert h; decide
  | infinity sign => revert h; cases sign <;> decide
  | zero sign => rfl
  | finite sign m e hm => rfl

/-- Only the sums of finite numbers are finite. -/
theorem finite_of_add {u v : UnpackedFloat}
    (h : (UnpackedFloat.add Format.binary64 u v).isFinite = true) :
    u.isFinite = true ∧ v.isFinite = true := by
  cases u with
  | infinity s =>
    cases v with
    | infinity t =>
      simp only [UnpackedFloat.add] at h
      split at h <;> cases h
    | _ => cases h
  | notANumber => cases h
  | _ =>
    cases v with
    | infinity t => cases h
    | notANumber => cases h
    | _ => exact ⟨rfl, rfl⟩

theorem isFinite_of_add (h : (x + y).isFinite = true) : x.isFinite = true ∧ y.isFinite = true :=
  finite_of_add (isFinite_of_pack h)

theorem isFinite_of_sub (h : (x - y).isFinite = true) : x.isFinite = true ∧ y.isFinite = true := by
  have hdifference := isFinite_of_pack h
  rw [sub_eq_add] at hdifference
  obtain ⟨hx, hy⟩ := finite_of_add hdifference
  rw [isFinite_unpacked_neg] at hy
  exact ⟨hx, hy⟩

/-- A sum of finite numbers is rounded. -/
theorem roundsTo_add (hx : x.isFinite = true) (hy : y.isFinite = true) :
    RoundsTo (x + y) (value x + value y) := by
  rw [value_eq_valueOf x, value_eq_valueOf y]
  exact becomes_add (rounded_unpack x) (rounded_unpack y) hx hy

/-- A difference of finite numbers is rounded. -/
theorem roundsTo_sub (hx : x.isFinite = true) (hy : y.isFinite = true) :
    RoundsTo (x - y) (value x - value y) := by
  have hneg : y.toModel.unpack.neg.isFinite = true := (isFinite_unpacked_neg _).trans hy
  have hdifference := becomes_add (rounded_unpack x) (rounded_unpack y).neg hx hneg
  rw [← sub_eq_add, valueOf_neg, ← sub_eq_add_neg] at hdifference
  rw [value_eq_valueOf x, value_eq_valueOf y]
  exact hdifference

/-- A product of finite numbers is rounded. -/
theorem roundsTo_mul (hx : x.isFinite = true) (hy : y.isFinite = true) :
    RoundsTo (x * y) (value x * value y) := by
  rw [value_eq_valueOf x, value_eq_valueOf y]
  exact becomes_mul (rounded_unpack x) (rounded_unpack y) hx hy

/-- A quotient of finite numbers is rounded, unless the divisor is zero. -/
theorem roundsTo_div (hx : x.isFinite = true) (hy : y.isFinite = true) (hne : value y ≠ 0) :
    RoundsTo (x / y) (value x / value y) := by
  rw [value_eq_valueOf] at hne
  rw [value_eq_valueOf x, value_eq_valueOf y]
  exact becomes_div hx hy hne

/-- A finite sum is the rounded sum. -/
theorem value_add (h : (x + y).isFinite = true) : value (x + y) = nearest (value x + value y) :=
  have hfinite := isFinite_of_add h
  (roundsTo_add hfinite.1 hfinite.2).value_eq h

/-- A finite difference is the rounded difference. -/
theorem value_sub (h : (x - y).isFinite = true) : value (x - y) = nearest (value x - value y) :=
  have hfinite := isFinite_of_sub h
  (roundsTo_sub hfinite.1 hfinite.2).value_eq h

/-- A finite quotient of finite numbers is the rounded quotient. -/
theorem value_div (hx : x.isFinite = true) (hy : y.isFinite = true) (hne : value y ≠ 0)
    (h : (x / y).isFinite = true) : value (x / y) = nearest (value x / value y) :=
  (roundsTo_div hx hy hne).value_eq h

theorem valueOf_ne_zero (sign : Sign) {m : Nat} (e : ℤ) (hm : 0 < m) :
    valueOf (.finite sign m e hm) ≠ 0 := by
  have hpos : (0 : ℚ) < m * 2 ^ e := mul_pos (by exact_mod_cast hm) (two_zpow_pos e)
  rw [valueOf_finite]
  cases sign
  · exact neg_ne_zero.mpr hpos.ne'
  · exact hpos.ne'

/-- A quotient is finite only if the dividend is, and the divisor is a number other than zero or an
infinity. -/
theorem finite_of_div {u v : UnpackedFloat}
    (h : (UnpackedFloat.div Format.binary64 u v).isFinite = true) :
    u.isFinite = true ∧ (v.isFinite = true ∧ valueOf v ≠ 0 ∨ ∃ sign, v = .infinity sign) := by
  cases u with
  | infinity s => cases v <;> cases h
  | notANumber => cases h
  | _ =>
    cases v with
    | infinity t => exact ⟨rfl, .inr ⟨t, rfl⟩⟩
    | finite t n k hn => exact ⟨rfl, .inl ⟨rfl, valueOf_ne_zero t k hn⟩⟩
    | _ => cases h

theorem isFinite_of_div (h : (x / y).isFinite = true) : x.isFinite = true :=
  (finite_of_div (isFinite_of_pack h)).1

theorem value_div_infinity {sign : Sign} (hx : x.isFinite = true)
    (hy : y.toModel.unpack = .infinity sign) : value (x / y) = 0 := by
  have hquotient : ∃ sign, UnpackedFloat.div Format.binary64 x.toModel.unpack y.toModel.unpack =
      .zero sign := by
    rw [hy]
    obtain ⟨s, hx⟩ | ⟨s, m, e, hm, hx⟩ := finite_cases hx <;> exact ⟨_, by rw [hx]; rfl⟩
  obtain ⟨sign, hquotient⟩ := hquotient
  change value (.ofModel (.pack (UnpackedFloat.div Format.binary64 x.toModel.unpack
    y.toModel.unpack))) = 0
  rw [hquotient, value_pack_zero]

/-- A greater number does not have the lesser quotient. -/
theorem value_div_mono {z : Float} (hz : ¬ z ≤ 0) (hx : (x / z).isFinite = true)
    (hy : (y / z).isFinite = true) (h : ¬ y < x) : value (x / z) ≤ value (y / z) := by
  obtain ⟨hx', hsize⟩ := finite_of_div (isFinite_of_pack hx)
  have hy' := isFinite_of_div hy
  rw [lt_iff_value hy' hx', not_lt] at h
  obtain ⟨hfinite, hne⟩ | ⟨sign, hinfinite⟩ := hsize
  · rw [← value_eq_valueOf] at hne
    rw [le_iff_value hfinite (by decide), value_zero, not_le] at hz
    rw [value_div hx' hfinite hne hx, value_div hy' hfinite hne hy]
    exact nearest_mono (div_le_div_of_nonneg_right h hz.le)
  · rw [value_div_infinity hx' hinfinite, value_div_infinity hy' hinfinite]

/-- Going back by a difference that is not negative does not lead below the start. -/
theorem not_add_sub_lt (h : ¬ y < x) (hfinite : (x + (y - x)).isFinite = true) :
    ¬ x + (y - x) < x := by
  obtain ⟨hx, hdifference⟩ := isFinite_of_add hfinite
  obtain ⟨hy, -⟩ := isFinite_of_sub hdifference
  rw [lt_iff_value hy hx, not_lt] at h
  have hnonneg : 0 ≤ value (y - x) := by
    rw [value_sub hdifference, ← nearest_zero]
    exact nearest_mono (sub_nonneg.mpr h)
  rw [lt_iff_value hfinite hx, not_lt, value_add hfinite]
  calc value x = nearest (value x) := (nearest_value x).symm
    _ ≤ nearest (value x + value (y - x)) := nearest_mono (le_add_of_nonneg_right hnonneg)

end Operations

/-! ## Exact arithmetic -/

/-- Whether a double is finite and stands for a number. -/
def StandsFor (x : Float) (q : ℚ) : Prop :=
  x.isFinite = true ∧ value x = q

/-- A number that some double stands for. -/
def Representable (q : ℚ) : Prop :=
  ∃ x : Float, StandsFor x q

theorem abs_value_lt (x : Float) : |value x| < 2 ^ 1024 := by
  have hpos : (0 : ℚ) < 2 ^ 1024 := pow_pos two_pos _
  rw [value]
  cases hview : view x with
  | finite negative m e =>
    have hform := view_canonical hview
    have hlt := hform.normal.lt_iff.mpr hform.highest
    have habs : |(m : ℚ) * 2 ^ e| = m * 2 ^ e :=
      abs_of_nonneg (mul_nonneg (Nat.cast_nonneg m) (two_zpow_pos e).le)
    cases negative with
    | false => simpa only [View.value, habs, Bool.false_eq_true, if_false] using hlt
    | true => simpa only [View.value, abs_neg, habs, if_true] using hlt
  | _ => simpa only [View.value, abs_zero] using hpos

/-- Nothing is lost where the exact result is the value of a double. -/
theorem RoundsTo.exact {x : Float} {q : ℚ} (h : RoundsTo x q) (hq : Representable q) :
    StandsFor x q := by
  obtain ⟨y, _, rfl⟩ := hq
  have hfinite := h.finite (by simpa only [nearest_value] using abs_value_lt y)
  rwa [nearest_value] at hfinite

section Operands

variable {x y : Float} {p q : ℚ}

theorem StandsFor.representable (h : StandsFor x q) : Representable q :=
  ⟨x, h⟩

theorem StandsFor.add (hx : StandsFor x p) (hy : StandsFor y q) (h : Representable (p + q)) :
    StandsFor (x + y) (p + q) := by
  have hsum := roundsTo_add hx.1 hy.1
  rw [hx.2, hy.2] at hsum
  exact hsum.exact h

theorem StandsFor.sub (hx : StandsFor x p) (hy : StandsFor y q) (h : Representable (p - q)) :
    StandsFor (x - y) (p - q) := by
  have hdifference := roundsTo_sub hx.1 hy.1
  rw [hx.2, hy.2] at hdifference
  exact hdifference.exact h

theorem StandsFor.mul (hx : StandsFor x p) (hy : StandsFor y q) (h : Representable (p * q)) :
    StandsFor (x * y) (p * q) := by
  have hproduct := roundsTo_mul hx.1 hy.1
  rw [hx.2, hy.2] at hproduct
  exact hproduct.exact h

theorem StandsFor.lt_iff (hx : StandsFor x p) (hy : StandsFor y q) : x < y ↔ p < q := by
  rw [lt_iff_value hx.1 hy.1, hx.2, hy.2]

theorem StandsFor.le_iff (hx : StandsFor x p) (hy : StandsFor y q) : x ≤ y ↔ p ≤ q := by
  rw [le_iff_value hx.1 hy.1, hx.2, hy.2]

end Operands

theorem value_ofInt {n : ℤ} (h : n.natAbs < 2 ^ 53) : value (Float.ofInt n) = n := by
  by_cases hzero : n = 0
  · rw [hzero, value_of_view view_ofInt_zero]
    simp
  · have hlift : ((n.natAbs * 2 ^ lift n.natAbs : ℕ) : ℚ) * 2 ^ (-(lift n.natAbs : ℤ)) =
        n.natAbs := by
      push_cast
      rw [zpow_neg, zpow_natCast, mul_assoc, mul_inv_cancel₀ (by positivity), mul_one]
    rw [value_of_view (view_ofInt hzero h), hlift, Nat.cast_natAbs, Int.cast_abs]
    split_ifs with hneg
    · rw [abs_of_neg (by exact_mod_cast of_decide_eq_true hneg), neg_neg]
    · rw [abs_of_nonneg (by exact_mod_cast not_lt.mp fun hlt => hneg (decide_eq_true hlt))]

/-- Whole numbers with at most 53 binary digits are values of doubles. -/
theorem standsFor_ofInt {n : ℤ} (h : n.natAbs < 2 ^ 53) : StandsFor (Float.ofInt n) n :=
  ⟨isFinite_ofInt h, value_ofInt h⟩

end Canvasflow.Double
