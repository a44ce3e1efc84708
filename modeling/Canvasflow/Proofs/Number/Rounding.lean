import Canvasflow.Proofs.Number.Whole

/-!
# Rounding to doubles

`nearest` rounds an exact number as doubles do: to 53 binary digits, or to a multiple of the least
double, and a tie to the even neighbour. It is monotone (`nearest_mono`). Arithmetic on doubles
works on a mantissa with what is known of the digits behind it, and `roundWithAccuracy_nearest` says
that what it makes of them is the rounded number.
-/

namespace Canvasflow.Double

open Float.Model Float.Model.UnpackedFloat

/-! ## Rounding to whole numbers -/

/-- The integer next to a number, a tie to the even one. -/
def roundEven (q : ℚ) : ℤ :=
  if Int.fract q < 1 / 2 then ⌊q⌋
  else if 1 / 2 < Int.fract q then ⌊q⌋ + 1
  else ⌊q⌋ + ⌊q⌋ % 2

theorem floor_le_roundEven (q : ℚ) : ⌊q⌋ ≤ roundEven q := by
  unfold roundEven
  split
  · exact le_refl _
  · split <;> omega

theorem roundEven_le (q : ℚ) : roundEven q ≤ ⌊q⌋ + 1 := by
  unfold roundEven
  split
  · omega
  · split <;> omega

@[simp] theorem roundEven_intCast (n : ℤ) : roundEven n = n := by
  simp [roundEven]

theorem roundEven_mono {p q : ℚ} (h : p ≤ q) : roundEven p ≤ roundEven q := by
  rcases (Int.floor_le_floor h).eq_or_lt with hsame | hless
  · -- On one stretch between integers the fractions decide.
    have hfract : Int.fract p ≤ Int.fract q := by
      rw [Int.fract, Int.fract, hsame]
      linarith
    unfold roundEven
    rw [hsame]
    split_ifs <;> first | omega | (exfalso; linarith)
  · calc roundEven p ≤ ⌊p⌋ + 1 := roundEven_le p
      _ ≤ ⌊q⌋ := hless
      _ ≤ roundEven q := floor_le_roundEven q

theorem roundEven_nonneg {q : ℚ} (h : 0 ≤ q) : 0 ≤ roundEven q :=
  (Int.floor_nonneg.mpr h).trans (floor_le_roundEven q)

/-! ## Rounding to 53 digits -/

/-- The exponent of the last digit to which a positive number is rounded. -/
def lastPlace (q : ℚ) : ℤ :=
  max (Int.log 2 q + 1 - 53) (-1074)

/-- A number that is not negative, rounded. -/
def nearestAbove (q : ℚ) : ℚ :=
  roundEven (q / 2 ^ lastPlace q) * 2 ^ lastPlace q

/-- The number with 53 binary digits next to a number, a tie to the even one. -/
def nearest (q : ℚ) : ℚ :=
  if q < 0 then -nearestAbove (-q) else nearestAbove q

theorem two_zpow_pos (e : ℤ) : (0 : ℚ) < 2 ^ e :=
  zpow_pos two_pos e

theorem pow_mul_zpow (k : ℕ) (e : ℤ) : (2 : ℚ) ^ k * 2 ^ e = 2 ^ (k + e) := by
  rw [zpow_add₀ two_ne_zero, zpow_natCast]

theorem nearestAbove_nonneg {q : ℚ} (h : 0 ≤ q) : 0 ≤ nearestAbove q := by
  have hquotient : 0 ≤ q / 2 ^ lastPlace q := div_nonneg h (two_zpow_pos _).le
  exact mul_nonneg (by exact_mod_cast roundEven_nonneg hquotient) (two_zpow_pos _).le

/-- The digits of a number that stand before the last place are 53 at most. -/
theorem div_lastPlace_lt (q : ℚ) : q / 2 ^ lastPlace q < 2 ^ 53 := by
  rw [div_lt_iff₀ (two_zpow_pos _), pow_mul_zpow]
  have hlog : q < 2 ^ (Int.log 2 q + 1) := Int.lt_zpow_succ_log_self (by decide) q
  refine hlog.trans_le (zpow_le_zpow_right₀ (by norm_num) ?_)
  simp only [lastPlace]
  omega

/-- There are 53 of them unless the last place is the least one. -/
theorem pow_le_div_lastPlace {q : ℚ} (h : 0 < q) (hplace : lastPlace q ≠ -1074) :
    2 ^ 52 ≤ q / 2 ^ lastPlace q := by
  rw [le_div_iff₀ (two_zpow_pos _), pow_mul_zpow]
  refine (zpow_le_zpow_right₀ (by norm_num) ?_).trans (Int.zpow_log_le_self (by decide) h)
  simp only [lastPlace] at hplace ⊢
  omega

theorem roundEven_lastPlace_le (q : ℚ) : roundEven (q / 2 ^ lastPlace q) ≤ 2 ^ 53 :=
  calc roundEven (q / 2 ^ lastPlace q) ≤ roundEven ((2 ^ 53 : ℤ) : ℚ) :=
        roundEven_mono (by push_cast; exact (div_lastPlace_lt q).le)
    _ = 2 ^ 53 := roundEven_intCast _

theorem le_roundEven_lastPlace {q : ℚ} (h : 0 < q) (hplace : lastPlace q ≠ -1074) :
    2 ^ 52 ≤ roundEven (q / 2 ^ lastPlace q) :=
  calc (2 : ℤ) ^ 52 = roundEven ((2 ^ 52 : ℤ) : ℚ) := (roundEven_intCast _).symm
    _ ≤ roundEven (q / 2 ^ lastPlace q) :=
        roundEven_mono (by push_cast; exact pow_le_div_lastPlace h hplace)

@[simp] theorem nearestAbove_zero : nearestAbove 0 = 0 := by
  simp [nearestAbove, roundEven]

theorem nearestAbove_mono {p q : ℚ} (hp : 0 ≤ p) (h : p ≤ q) : nearestAbove p ≤ nearestAbove q := by
  rcases hp.eq_or_lt with rfl | hp
  · rw [nearestAbove_zero]
    exact nearestAbove_nonneg h
  · have hlog : Int.log 2 p ≤ Int.log 2 q := Int.log_mono_right hp h
    have hplace : lastPlace p ≤ lastPlace q := by
      simp only [lastPlace]
      omega
    unfold nearestAbove
    rcases hplace.eq_or_lt with hsame | hless
    · rw [hsame]
      refine mul_le_mul_of_nonneg_right ?_ (two_zpow_pos _).le
      exact_mod_cast roundEven_mono (div_le_div_of_nonneg_right h (two_zpow_pos _).le)
    · -- A power of two lies between the numbers, and rounding does not pass it.
      have hquotient := roundEven_lastPlace_le p
      have hfull : (2 : ℤ) ^ 52 ≤ roundEven (q / 2 ^ lastPlace q) := by
        refine le_roundEven_lastPlace (hp.trans_le h) ?_
        simp only [lastPlace] at hless ⊢
        omega
      calc (roundEven (p / 2 ^ lastPlace p) : ℚ) * 2 ^ lastPlace p
          ≤ 2 ^ 53 * 2 ^ lastPlace p :=
            mul_le_mul_of_nonneg_right (by exact_mod_cast hquotient) (two_zpow_pos _).le
        _ = 2 ^ (53 + lastPlace p) := pow_mul_zpow 53 _
        _ ≤ 2 ^ (52 + lastPlace q) := zpow_le_zpow_right₀ (by norm_num) (by omega)
        _ = 2 ^ 52 * 2 ^ lastPlace q := (pow_mul_zpow 52 _).symm
        _ ≤ roundEven (q / 2 ^ lastPlace q) * 2 ^ lastPlace q :=
            mul_le_mul_of_nonneg_right (by exact_mod_cast hfull) (two_zpow_pos _).le

@[simp] theorem nearest_zero : nearest 0 = 0 := by
  simp [nearest]

/-- A greater number is not rounded to a lesser one. -/
theorem nearest_mono {p q : ℚ} (h : p ≤ q) : nearest p ≤ nearest q := by
  unfold nearest
  split_ifs with hp hq hq
  · exact neg_le_neg (nearestAbove_mono (by linarith) (by linarith))
  · have hleft := nearestAbove_nonneg (show 0 ≤ -p by linarith)
    have hright := nearestAbove_nonneg (show 0 ≤ q by linarith)
    linarith
  · linarith
  · exact nearestAbove_mono (by linarith) h

theorem nearest_neg (q : ℚ) : nearest (-q) = -nearest q := by
  unfold nearest
  rcases lt_trichotomy q 0 with h | rfl | h
  · rw [if_neg (by linarith), if_pos h, neg_neg]
  · simp
  · rw [if_pos (by linarith), if_neg (by linarith), neg_neg]

theorem nearest_of_nonneg {q : ℚ} (h : 0 ≤ q) : nearest q = nearestAbove q :=
  if_neg (not_lt.mpr h)

/-! ## Mantissas and the digits behind them -/

/-- Whether a number begins with a mantissa, and its further digits are as the two bits say. -/
structure Describes (em : ExtendedMantissa) (q : ℚ) : Prop where
  low : em.mantissa ≤ q
  high : q < em.mantissa + 1
  half : em.roundBit = true ↔ 2 * em.mantissa + 1 ≤ 2 * q
  rest : em.stickyBit = true ↔ q ≠ em.mantissa ∧ 2 * q ≠ 2 * em.mantissa + 1

variable {em : ExtendedMantissa} {q : ℚ}

theorem describes_exact (m : Nat) : Describes (.ofMantissaAndAccuracy m .exact) m := by
  constructor <;> simp [ExtendedMantissa.ofMantissaAndAccuracy]

/-- A quotient of integers and what remains describe the fraction. -/
theorem describes_fraction (m : Nat) {num den : Nat} (h : num < den) :
    Describes (.ofMantissaAndAccuracy m (accuracyOfFraction num den)) (m + num / den) := by
  have hden : (0 : ℚ) < den := by exact_mod_cast (Nat.zero_le num).trans_lt h
  have hlt : (num : ℚ) / den < 1 := by
    rw [div_lt_one hden]
    exact_mod_cast h
  have hnonneg : (0 : ℚ) ≤ num / den := by positivity
  have hhalf : (2 : ℚ) * m + 1 ≤ 2 * (m + num / den) ↔ den ≤ 2 * num := by
    rw [mul_add, add_le_add_iff_left, ← mul_div_assoc, one_le_div hden]
    norm_cast
  have heq : (2 : ℚ) * (m + num / den) = 2 * m + 1 ↔ 2 * num = den := by
    rw [mul_add, add_right_inj, ← mul_div_assoc, div_eq_one_iff_eq hden.ne']
    norm_cast
  have hzero : (m : ℚ) + num / den = m ↔ num = 0 := by simp [hden.ne']
  unfold accuracyOfFraction
  by_cases hnum : num = 0
  · subst hnum
    simpa using describes_exact m
  · rw [if_neg hnum]
    have hlow : (m : ℚ) ≤ m + num / den := by linarith
    have hhigh : (m : ℚ) + num / den < m + 1 := by linarith
    -- the half is compared with in whole numbers, and each outcome is said of the quotient
    cases hcompare : compare (2 * num) den
    case' lt => rw [compare_lt_iff_lt] at hcompare
    case' eq => rw [compare_eq_iff_eq] at hcompare
    case' gt => rw [compare_gt_iff_gt] at hcompare
    all_goals
      refine ⟨hlow, hhigh, ?_, ?_⟩ <;>
        simp only [ExtendedMantissa.ofMantissaAndAccuracy, ne_eq, hhalf, heq, hzero] <;> grind

/-- Some bit behind the mantissa is set exactly if the number goes on there. -/
theorem Describes.bits (h : Describes em q) :
    (em.roundBit || em.stickyBit) = true ↔ q ≠ em.mantissa := by
  rw [Bool.or_eq_true, h.half, h.rest]
  constructor
  · rintro (hhalf | hrest) heq
    · linarith
    · exact hrest.1 heq
  · intro hne
    by_cases hhalf : 2 * (em.mantissa : ℚ) + 1 ≤ 2 * q
    · exact .inl hhalf
    · exact .inr ⟨hne, fun heq => hhalf heq.ge⟩

/-- A shift by one digit halves the number. -/
theorem Describes.shiftRightOne (h : Describes em q) : Describes em.shiftRightOne (q / 2) := by
  have hbits := h.bits
  obtain ⟨hlow, hhigh, _, _⟩ := h
  obtain ⟨m, round, sticky⟩ := em
  simp only at hlow hhigh hbits
  obtain ⟨k, hk | hk⟩ := m.even_or_odd'
  · have hm : (m : ℚ) = 2 * k := by exact_mod_cast hk
    rw [hm] at hlow hhigh hbits
    have hmantissa : m / 2 = k := by omega
    have hbit : (m % 2 != 0) = false := by simp [hk]
    simp only [ExtendedMantissa.shiftRightOne, hmantissa, hbit]
    refine ⟨by linarith, by linarith, ?_, ?_⟩
    · simp only [Bool.false_eq_true, false_iff, not_le]
      linarith
    · rw [hbits]
      constructor
      · exact fun hne => ⟨fun heq => hne (by linarith), fun heq => by linarith⟩
      · exact fun hne heq => hne.1 (by linarith)
  · have hm : (m : ℚ) = 2 * k + 1 := by exact_mod_cast hk
    rw [hm] at hlow hhigh hbits
    have hmantissa : m / 2 = k := by omega
    have hbit : (m % 2 != 0) = true := by
      have : m % 2 = 1 := by omega
      simp [this]
    simp only [ExtendedMantissa.shiftRightOne, hmantissa, hbit]
    refine ⟨by linarith, by linarith, ?_, ?_⟩
    · simp only [true_iff]
      linarith
    · rw [hbits]
      constructor
      · exact fun hne => ⟨fun heq => by linarith, fun heq => hne (by linarith)⟩
      · exact fun hne heq => hne.2 (by linarith)

theorem Describes.shiftRight (h : Describes em q) (k : Nat) : Describes (em >>> k) (q / 2 ^ k) := by
  change Describes (Nat.repeat ExtendedMantissa.shiftRightOne k em) _
  induction k with
  | zero => simpa [Nat.repeat] using h
  | succ k ih =>
    rw [Nat.repeat, pow_succ, ← div_div]
    exact ih.shiftRightOne

theorem Describes.floor_eq (h : Describes em q) : ⌊q⌋ = em.mantissa :=
  Int.floor_eq_iff.mpr ⟨by exact_mod_cast h.low, by exact_mod_cast h.high⟩

/-- The bits decide how the number is rounded. -/
theorem Describes.roundedMantissa (h : Describes em q) : (em.roundedMantissa : ℤ) = roundEven q := by
  have hfloor := h.floor_eq
  have hfract : Int.fract q = q - em.mantissa := by
    rw [Int.fract, hfloor, Int.cast_natCast]
  obtain ⟨hlow, hhigh, hhalf, hrest⟩ := h
  unfold roundEven
  rw [hfract, hfloor]
  obtain ⟨m, _ | _, _ | _⟩ := em <;>
    simp only [ExtendedMantissa.roundedMantissa, ExtendedMantissa.accuracy,
      Accuracy.roundToNearestEven, Bool.false_eq_true, false_iff, true_iff] at *
  · rw [if_pos (by grind)]
  · rw [if_pos (by grind)]
  · rw [if_neg (by grind), if_neg (by grind)]
    push_cast
    rfl
  · rw [if_neg (by grind), if_pos (by grind)]
    push_cast
    rfl

/-! ## Rounding unpacked doubles -/

/-- The forms of rounded numbers: those of doubles, but the exponent may be too large for one. -/
structure Normal (mantissa : Nat) (exponent : ℤ) : Prop where
  below : mantissa < 2 ^ 53
  lowest : -1074 ≤ exponent
  full : 2 ^ 52 ≤ mantissa ∨ exponent = -1074

theorem Normal.canonical {m : Nat} {e : ℤ} (h : Normal m e) (he : e ≤ 971) : Canonical m e :=
  ⟨h.below, h.lowest, he, h.full⟩

theorem Canonical.normal {m : Nat} {e : ℤ} (h : Canonical m e) : Normal m e :=
  ⟨h.below, h.lowest, h.full⟩

/-- What rounding makes of a positive number with a sign. -/
inductive Rounds (sign : Sign) (q : ℚ) : UnpackedFloat → Prop
  | zero (hvalue : nearestAbove q = 0) : Rounds sign q (.zero sign)
  | finite {m : Nat} {e : ℤ} (hm : 0 < m) (hvalue : m * 2 ^ e = nearestAbove q)
      (hform : Normal m e) : Rounds sign q (.finite sign m e hm)

variable {m : Nat} {e : ℤ} {accuracy : Accuracy}

theorem log_eq_of_bounds {k : ℤ} (hlow : 2 ^ k ≤ q) (hhigh : q < 2 ^ (k + 1)) : Int.log 2 q = k := by
  have hq : 0 < q := (two_zpow_pos k).trans_le hlow
  have hle : k ≤ Int.log 2 q := (Int.zpow_le_iff_le_log (by decide) hq).mp hlow
  have hlt : Int.log 2 q < k + 1 := (Int.lt_zpow_iff_log_lt (by decide) hq).mp hhigh
  omega

/-- A number has as many digits as the mantissa with which it begins. -/
theorem log_of_mantissa (hm : 0 < m) (hlow : m * 2 ^ e ≤ q) (hhigh : q < (m + 1) * 2 ^ e) :
    Int.log 2 q = m.log2 + e := by
  have hfirst : (2 : ℚ) ^ m.log2 ≤ m := by exact_mod_cast Nat.log2_self_le hm.ne'
  have hnext : (m : ℚ) + 1 ≤ 2 ^ (m.log2 + 1) := by exact_mod_cast Nat.lt_log2_self (n := m)
  refine log_eq_of_bounds ?_ ?_
  · rw [← pow_mul_zpow]
    exact (mul_le_mul_of_nonneg_right hfirst (two_zpow_pos e).le).trans hlow
  · refine hhigh.trans_le ((mul_le_mul_of_nonneg_right hnext (two_zpow_pos e).le).trans_eq ?_)
    rw [pow_mul_zpow]
    congr 1
    push_cast
    ring

theorem log_mantissa (hm : 0 < m) (e : ℤ) : Int.log 2 ((m : ℚ) * 2 ^ e) = m.log2 + e :=
  log_of_mantissa hm le_rfl (mul_lt_mul_of_pos_right (lt_add_one _) (two_zpow_pos e))

/-- The exponent at which rounding aims is that of the last place. -/
theorem targetExponent_eq_lastPlace (hq : 0 < q)
    (h : Describes (.ofMantissaAndAccuracy m accuracy) (q / 2 ^ e)) (he : e ≤ lastPlace q) :
    Format.binary64.targetExponent (totalExponent m e) = lastPlace q := by
  have hmantissa : (ExtendedMantissa.ofMantissaAndAccuracy m accuracy).mantissa = m := by
    unfold ExtendedMantissa.ofMantissaAndAccuracy
    split <;> rfl
  obtain ⟨hlow, hhigh, -, -⟩ := h
  rw [hmantissa] at hlow hhigh
  rw [le_div_iff₀ (two_zpow_pos e)] at hlow
  rw [div_lt_iff₀ (two_zpow_pos e)] at hhigh
  simp only [Format.targetExponent, totalExponent, Format.mantissaBits, Format.minExponent]
  obtain rfl | hm := Nat.eq_zero_or_pos m
  · -- The number is so small that it ends at the least exponent.
    have hlog : Int.log 2 q < e := by
      rw [← Int.lt_zpow_iff_log_lt (by decide) hq]
      simpa using hhigh
    simp only [lastPlace, Nat.log2_zero] at he ⊢
    push_cast
    omega
  · simp only [lastPlace, log_of_mantissa hm hlow hhigh]
    push_cast
    omega

/-- The first shift of rounding brings the last place to the end of the mantissa. -/
theorem shiftToTargetExponent_lastPlace (hq : 0 < q)
    (h : Describes (.ofMantissaAndAccuracy m accuracy) (q / 2 ^ e)) (he : e ≤ lastPlace q) :
    ∃ em, shiftToTargetExponent Format.binary64 m e accuracy = (em, lastPlace q) ∧
      Describes em (q / 2 ^ lastPlace q) := by
  obtain ⟨k, hk⟩ := Int.le.dest he
  refine ⟨ExtendedMantissa.ofMantissaAndAccuracy m accuracy >>> k, ?_, ?_⟩
  · unfold shiftToTargetExponent shiftToExponent
    simp only [targetExponent_eq_lastPlace hq h he]
    rw [show (lastPlace q - e).toNat = k by omega, ← hk]
  · have hshift := h.shiftRight k
    rwa [div_div, mul_comm, pow_mul_zpow, add_comm, hk] at hshift

/-- The second shift of rounding takes in a carry. -/
theorem shiftToTargetExponent_carry (hm : m ≤ 2 ^ 53) (he : -1074 ≤ e)
    (hfull : 2 ^ 52 ≤ m ∨ e = -1074) :
    ∃ n k, shiftToTargetExponent Format.binary64 m e .exact = (⟨n, false, false⟩, k) ∧
      (n : ℚ) * 2 ^ k = m * 2 ^ e ∧ Normal n k := by
  obtain hlt | rfl := hm.lt_or_eq
  · have htarget : Format.binary64.targetExponent (totalExponent m e) ≤ e := by
      have hlog : m.log2 < 53 := by
        obtain rfl | hpos := Nat.eq_zero_or_pos m
        · decide
        · exact (Nat.log2_lt hpos.ne').mpr hlt
      simp only [Format.targetExponent, totalExponent, Format.mantissaBits, Format.minExponent]
      push_cast
      omega
    refine ⟨m, e, ?_, rfl, hlt, he, hfull⟩
    have hstay := mantissa_shiftRight 0 m
    simp only [pow_zero, mul_one] at hstay
    unfold shiftToTargetExponent shiftToExponent
    simp only [show (Format.binary64.targetExponent (totalExponent m e) - e).toNat = 0 by omega,
      ExtendedMantissa.ofMantissaAndAccuracy, hstay, Nat.cast_zero, add_zero]
  · have htarget : Format.binary64.targetExponent (totalExponent (2 ^ 53) e) = e + 1 := by
      simp only [Format.targetExponent, totalExponent, Format.mantissaBits, Format.minExponent,
        Nat.log2_two_pow]
      push_cast
      omega
    refine ⟨2 ^ 52, e + 1, ?_, ?_, by decide, by omega, .inl le_rfl⟩
    · have hone := mantissa_shiftRight 1 (2 ^ 52)
      unfold shiftToTargetExponent shiftToExponent
      simp only [htarget, show (e + 1 - e).toNat = 1 by omega,
        ExtendedMantissa.ofMantissaAndAccuracy]
      rw [show (2 : ℕ) ^ 53 = 2 ^ 52 * 2 ^ 1 by norm_num, hone]
      rfl
    · rw [zpow_add₀ two_ne_zero]
      push_cast
      ring

/-- Rounding a mantissa with what is known of the digits behind it gives the rounded number. -/
theorem roundWithAccuracy_nearest (sign : Sign) (hq : 0 < q)
    (h : Describes (.ofMantissaAndAccuracy m accuracy) (q / 2 ^ e)) (he : e ≤ lastPlace q) :
    Rounds sign q (roundWithAccuracy Format.binary64 sign m e accuracy) := by
  obtain ⟨em, hshift, hdescribes⟩ := shiftToTargetExponent_lastPlace hq h he
  have hrounded := hdescribes.roundedMantissa
  have hle : em.roundedMantissa ≤ 2 ^ 53 := by
    have hmost := roundEven_lastPlace_le q
    rw [← hrounded] at hmost
    exact_mod_cast hmost
  have hplace : -1074 ≤ lastPlace q := le_max_right _ _
  have hfull : 2 ^ 52 ≤ em.roundedMantissa ∨ lastPlace q = -1074 := by
    by_cases hlowest : lastPlace q = -1074
    · exact .inr hlowest
    · left
      have hleast := le_roundEven_lastPlace hq hlowest
      rw [← hrounded] at hleast
      exact_mod_cast hleast
  obtain ⟨n, k, hcarry, hvalue, hform⟩ := shiftToTargetExponent_carry hle hplace hfull
  have hnearest : (n : ℚ) * 2 ^ k = nearestAbove q := by
    rw [hvalue, nearestAbove, ← hrounded, Int.cast_natCast]
  unfold roundWithAccuracy
  simp only [hshift, hcarry]
  split
  · rename_i hzero
    refine .zero ?_
    rw [← hnearest, hzero, Nat.cast_zero, zero_mul]
  · exact .finite _ hnearest hform

end Canvasflow.Double
