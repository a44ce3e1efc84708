import Canvasflow.Proofs.Number.Unpacked

/-!
# Whole doubles

An integer of at most 53 bits is a double without rounding: `view_ofInt` gives its canonical form.
So the double is finite and whole, it has the integer as its whole part, and any double equals it
exactly when `equalsInt` says so (`beq_ofInt`).
-/

namespace Canvasflow.Double

open Float.Model Float.Model.UnpackedFloat

/-! ## The doubles of integers -/

/-- The places by which the mantissa of a whole number is shifted up. -/
def lift (n : Nat) : Nat := 52 - n.log2

theorem canonical_lift {n : Nat} (hpos : 0 < n) (hlt : n < 2 ^ 53) :
    2 ^ 52 ≤ n * 2 ^ lift n ∧ Canonical (n * 2 ^ lift n) (-(lift n : Int)) := by
  have hlog : n.log2 < 53 := (Nat.log2_lt hpos.ne').mpr hlt
  have hlift : (n * 2 ^ lift n).log2 = 52 := by
    rw [log2_mul_two_pow hpos, lift]
    omega
  have hne : n * 2 ^ lift n ≠ 0 := by positivity
  have hmin : 2 ^ 52 ≤ n * 2 ^ lift n := (Nat.le_log2 hne).mp hlift.ge
  have hmax : n * 2 ^ lift n < 2 ^ 53 := (Nat.log2_lt hne).mp (by omega)
  exact ⟨hmin, hmax, by simp only [lift]; omega, by omega, .inl hmin⟩

theorem round_nat (sign : Sign) {n : Nat} (hpos : 0 < n) (hlt : n < 2 ^ 53) :
    UnpackedFloat.round Format.binary64 sign n 0 =
      .finite sign (n * 2 ^ lift n) (-(lift n : Int)) (by positivity) := by
  obtain ⟨hmin, hform⟩ := canonical_lift hpos hlt
  have hlog : n.log2 < 53 := (Nat.log2_lt hpos.ne').mpr hlt
  have htarget : Format.binary64.targetExponent (totalExponent n 0) = -(lift n : Int) := by
    simp only [Format.targetExponent, totalExponent, Format.mantissaBits, Format.minExponent, lift]
    push_cast
    omega
  unfold UnpackedFloat.round
  simp only [htarget, decreaseExponent]
  rw [show (0 - -(lift n : Int)).toNat = lift n by omega, Nat.shiftLeft_eq, zero_sub,
    round_canonical]
  exact hform

/-- The sign of a view. -/
def signOf (negative : Bool) : Sign :=
  if negative then .negative else .positive

theorem unpack_of_view {x : Float} {negative : Bool} {m : Nat} {e : Int} (hm : 0 < m)
    (h : view x = .finite negative m e) : x.toModel.unpack = .finite (signOf negative) m e hm := by
  rw [view_eq] at h
  cases hu : x.toModel.unpack with
  | notANumber | infinity sign => simp [hu, View.ofUnpacked] at h
  | zero sign =>
    simp only [hu, View.ofUnpacked, View.finite.injEq] at h
    omega
  | finite sign m' e' hm' =>
    simp only [hu, View.ofUnpacked, View.finite.injEq] at h
    obtain ⟨rfl, rfl, rfl⟩ := h
    cases sign <;> rfl

theorem view_ofNat {n : Nat} (hpos : 0 < n) (hlt : n < 2 ^ 53) :
    view (Float.ofNat n) = .finite false (n * 2 ^ lift n) (-(lift n : Int)) := by
  obtain ⟨hmin, hform⟩ := canonical_lift hpos hlt
  have hone : view (Float.ofBits 0x3FF0000000000000) = .finite false (2 ^ 52) (-52) := by
    decide +kernel
  have hword : view n.toUInt64.toFloat = .finite false (n * 2 ^ lift n) (-(lift n : Int)) := by
    have hn : n.toUInt64.toNat = n := Nat.mod_eq_of_lt (by omega)
    have hnormal : UnpackedFloat.ofUInt64 Format.binary64 n.toUInt64 =
        .finite .positive (n * 2 ^ lift n) (-(lift n : Int)) (by positivity) := by
      simp only [UnpackedFloat.ofUInt64, UnpackedFloat.ofNat, UnpackedFloat.ofInt,
        UnpackedFloat.normalize, hn]
      rw [show compare (n : Int) 0 = .gt from compare_gt_iff_gt.mpr (by omega)]
      exact round_nat .positive hpos hlt
    change view (.ofModel (.pack (UnpackedFloat.ofUInt64 Format.binary64 n.toUInt64))) = _
    rw [hnormal]
    exact view_pack .positive _ hform
  -- a numeral is read as the product of its word and one, which is rounded again
  have hproduct : Float.ofNat n = n.toUInt64.toFloat * Float.ofBits 0x3FF0000000000000 := by
    change Float.ofScientific n false 0 = _
    rw [Float.ofScientific, dif_pos ⟨hlt, by decide⟩]
    rfl
  rw [hproduct]
  change view (.ofModel (.pack (UnpackedFloat.mul Format.binary64 n.toUInt64.toFloat.toModel.unpack
    (Float.ofBits 0x3FF0000000000000).toModel.unpack))) = _
  rw [unpack_of_view (by positivity) hword, unpack_of_view (by decide) hone]
  have hback : -(lift n : Int) + -52 + (52 : Nat) = -(lift n : Int) := by omega
  have hround := round_exact (signOf false * signOf false) (m := n * 2 ^ lift n) (k := 52)
    (e := -(lift n : Int) + -52) (by positivity) (by rwa [hback])
  simp only [UnpackedFloat.mul, hround, hback]
  exact view_pack _ _ hform

/-- A whole number of at most 53 bits is a double without rounding. -/
theorem view_ofInt {n : Int} (hne : n ≠ 0) (hlt : n.natAbs < 2 ^ 53) :
    view (Float.ofInt n) =
      .finite (decide (n < 0)) (n.natAbs * 2 ^ lift n.natAbs) (-(lift n.natAbs : Int)) := by
  cases n with
  | ofNat n =>
    have hpos : 0 < n := Nat.pos_of_ne_zero (by simpa using hne)
    have hsign : decide (Int.ofNat n < 0) = false := by simp
    rw [hsign]
    exact view_ofNat hpos hlt
  | negSucc n =>
    have hpos : 0 < n + 1 := Nat.succ_pos n
    have hsign : decide (Int.negSucc n < 0) = true := by simp [Int.negSucc_lt_zero]
    change view (.ofModel (.pack (Float.ofNat (n + 1)).toModel.unpack.neg)) = _
    rw [unpack_of_view (by positivity) (view_ofNat hpos hlt), hsign]
    exact view_pack .negative _ (canonical_lift hpos hlt).2

/-! ## Whole doubles -/

/-- The magnitude that a mantissa and an exponent stand for, without its fraction. -/
def magnitude (m : Nat) (e : Int) : Nat :=
  if 0 ≤ e then m * 2 ^ e.toNat else m / 2 ^ (-e).toNat

theorem truncate?_of_view {x : Float} {negative : Bool} {m : Nat} {e : Int}
    (h : view x = .finite negative m e) :
    truncate? x = some (if negative then -(magnitude m e : Int) else magnitude m e) := by
  rw [truncate?, h]
  rfl

theorem isWhole_of_view {x : Float} {negative : Bool} {m : Nat} {e : Int}
    (h : view x = .finite negative m e) :
    isWhole x = (decide (0 ≤ e) || m % 2 ^ (-e).toNat == 0) := by
  rw [isWhole, h]
  rfl

theorem magnitude_lift (n : Nat) : magnitude (n * 2 ^ lift n) (-(lift n : Int)) = n := by
  unfold magnitude
  split
  · have h : lift n = 0 := by omega
    simp [h]
  · simp

theorem view_ofInt_zero : view (Float.ofInt 0) = .finite false 0 (-1074) := by decide +kernel

theorem isFinite_ofInt {n : Int} (hlt : n.natAbs < 2 ^ 53) : (Float.ofInt n).isFinite = true := by
  by_cases h : n = 0
  · subst h
    decide +kernel
  · exact (isFinite_iff _).mpr ⟨_, _, _, view_ofInt h hlt⟩

theorem truncate?_ofInt {n : Int} (hlt : n.natAbs < 2 ^ 53) :
    truncate? (Float.ofInt n) = some n := by
  by_cases h : n = 0
  · subst h
    decide +kernel
  · rw [truncate?_of_view (view_ofInt h hlt), magnitude_lift]
    by_cases hneg : n < 0
    · simp only [hneg, decide_true, if_true, Option.some.injEq]
      omega
    · simp only [hneg, decide_false, Option.some.injEq, Bool.false_eq_true, if_false]
      omega

theorem isWhole_ofInt {n : Int} (hlt : n.natAbs < 2 ^ 53) : isWhole (Float.ofInt n) = true := by
  by_cases h : n = 0
  · subst h
    decide +kernel
  · rw [isWhole_of_view (view_ofInt h hlt)]
    simp

/-- Two canonical forms of one number are one form. -/
theorem Canonical.unique {m n : Nat} {e k : Int} (hm : Canonical m e) (hn : Canonical n k)
    (hle : e ≤ k) (h : m = n * 2 ^ (k - e).toNat) : m = n ∧ e = k := by
  obtain heq | hlt := hle.eq_or_lt
  · subst heq
    simpa using h
  · exfalso
    -- the mantissa with the lower exponent would need more than 53 bits
    have hfull : 2 ^ 52 ≤ n := by
      have := hm.lowest
      exact hn.full.resolve_right (by omega)
    have hmore : 2 ^ 52 * 2 ≤ n * 2 ^ (k - e).toNat := by
      refine Nat.mul_le_mul hfull ?_
      calc 2 = 2 ^ 1 := rfl
        _ ≤ 2 ^ (k - e).toNat := Nat.pow_le_pow_right (by decide) (by omega)
    have := hm.below
    omega

/-- Whether a mantissa and an exponent stand for a whole number. -/
def Whole (m : Nat) (e : Int) : Prop :=
  0 ≤ e ∨ m % 2 ^ (-e).toNat = 0

theorem Whole.mantissa_eq {m : Nat} {e : Int} (h : Whole m e) (he : e < 0) :
    m = magnitude m e * 2 ^ (-e).toNat := by
  rw [magnitude, if_neg (by omega)]
  exact (Nat.div_mul_cancel (Nat.dvd_of_mod_eq_zero (h.resolve_left (by omega)))).symm

/-- The canonical form of a whole number. -/
theorem Canonical.eq_lift {m : Nat} {e : Int} (h : Canonical m e) (hwhole : Whole m e)
    (hpos : 0 < magnitude m e) (hlt : magnitude m e < 2 ^ 53) :
    m = magnitude m e * 2 ^ lift (magnitude m e) ∧ e = -(lift (magnitude m e) : Int) := by
  have hform := (canonical_lift hpos hlt).2
  generalize hL : lift (magnitude m e) = L at *
  by_cases he : 0 ≤ e
  · have hvalue : magnitude m e * 2 ^ L = m * 2 ^ (e - -(L : Int)).toNat := by
      rw [show (e - -(L : Int)).toNat = e.toNat + L by omega, Nat.pow_add, ← Nat.mul_assoc,
        magnitude, if_pos he]
    have := hform.unique h (by omega) hvalue
    omega
  · have hm := hwhole.mantissa_eq (by omega)
    obtain hle | hle := Int.le_total (-(L : Int)) e
    · have hvalue : magnitude m e * 2 ^ L = m * 2 ^ (e - -(L : Int)).toNat := by
        conv_rhs => rw [hm]
        rw [Nat.mul_assoc, ← Nat.pow_add]
        congr 2
        omega
      have := hform.unique h hle hvalue
      omega
    · refine h.unique hform hle ?_
      conv_lhs => rw [hm]
      rw [Nat.mul_assoc, ← Nat.pow_add]
      congr 2
      omega

theorem Whole.eq_zero {m : Nat} {e : Int} (h : Whole m e) (hzero : magnitude m e = 0) : m = 0 := by
  by_cases he : 0 ≤ e
  · rw [magnitude, if_pos he] at hzero
    simpa using hzero
  · rw [h.mantissa_eq (by omega), hzero, Nat.zero_mul]

theorem equalsInt_of_view {y : Float} {negative : Bool} {m : Nat} {e : Int}
    (h : view y = .finite negative m e) (n : Int) :
    equalsInt y n = true ↔
      Whole m e ∧ (if negative then -(magnitude m e : Int) else magnitude m e) = n := by
  simp [equalsInt, isWhole_of_view h, truncate?_of_view h, Whole]

/-- A double equals a whole double exactly when it is the same integer. -/
theorem beq_ofInt (y : Float) {n : Int} (hlt : n.natAbs < 2 ^ 53) :
    (y == Float.ofInt n) = equalsInt y n := by
  rw [beq_eq, Bool.eq_iff_iff]
  cases hy : view y with
  | notANumber => simp [View.same, equalsInt, isWhole, hy]
  | infinite negative =>
    obtain ⟨_, _, _, hx⟩ := (isFinite_iff _).mp (isFinite_ofInt hlt)
    simp [View.same, equalsInt, isWhole, hy, hx]
  | finite negative m e =>
    have hform := view_canonical hy
    rw [equalsInt_of_view hy]
    by_cases hn : n = 0
    · subst hn
      rw [view_ofInt_zero]
      -- the zeros are equal, whatever their signs and exponents
      have hzero : View.same (.finite negative m e) (.finite false 0 (-1074)) = true ↔ m = 0 := by
        simp only [View.same, Bool.or_eq_true, Bool.and_eq_true, beq_iff_eq]
        tauto
      rw [hzero]
      constructor
      · rintro rfl
        simp [Whole, magnitude]
      · rintro ⟨hwhole, hsigned⟩
        exact hwhole.eq_zero (by split at hsigned <;> omega)
    · rw [view_ofInt hn hlt]
      have hpos : 0 < n.natAbs * 2 ^ lift n.natAbs := by positivity
      have hsame : View.same (.finite negative m e) (.finite (decide (n < 0))
          (n.natAbs * 2 ^ lift n.natAbs) (-(lift n.natAbs : Int))) = true ↔
          negative = decide (n < 0) ∧ m = n.natAbs * 2 ^ lift n.natAbs ∧
            e = -(lift n.natAbs : Int) := by
        simp only [View.same, Bool.or_eq_true, Bool.and_eq_true, beq_iff_eq, hpos.ne']
        tauto
      rw [hsame]
      constructor
      · rintro ⟨rfl, rfl, rfl⟩
        refine ⟨by simp [Whole], ?_⟩
        rw [magnitude_lift]
        simp only [decide_eq_true_eq]
        split <;> omega
      · rintro ⟨hwhole, hsigned⟩
        have hmag : magnitude m e = n.natAbs := by split at hsigned <;> omega
        have hsign : negative = decide (n < 0) := by
          cases negative <;> simp at hsigned ⊢ <;> omega
        have hlift := hform.eq_lift hwhole (by omega) (by omega)
        rw [hmag] at hlift
        exact ⟨hsign, hlift⟩

/-! ## Order -/

/-- Positive doubles are ordered by their exponents and then by their mantissas. -/
theorem le_iff_of_view {x y : Float} {m n : Nat} {e k : Int} (hm : 0 < m) (hn : 0 < n)
    (hx : view x = .finite false m e) (hy : view y = .finite false n k) :
    x ≤ y ↔ e < k ∨ (e = k ∧ m ≤ n) := by
  change decide (x.toModel.unpack.le y.toModel.unpack = true) = true ↔ _
  rw [unpack_of_view hm hx, unpack_of_view hn hy]
  simp [UnpackedFloat.le, UnpackedFloat.compare, signOf, Ordering.isLE_then_iff_or,
    compare_lt_iff_lt, Nat.isLE_compare]

theorem truncate?_toNat_le_hundred {x : Float} {n : Int} (hle : x ≤ 100.0)
    (h : truncate? x = some n) : n.toNat ≤ 100 := by
  have hhundred : view 100.0 = .finite false (100 * 2 ^ 46) (-46) := by decide +kernel
  cases hview : view x with
  | notANumber => simp [truncate?, hview] at h
  | infinite negative => simp [truncate?, hview] at h
  | finite negative m e =>
    rw [truncate?_of_view hview, Option.some.injEq] at h
    have hform := view_canonical hview
    cases negative with
    | true =>
      simp only [if_true] at h
      omega
    | false =>
      simp only [Bool.false_eq_true, if_false] at h
      suffices magnitude m e ≤ 100 by omega
      obtain rfl | hm := Nat.eq_zero_or_pos m
      · simp [magnitude]
      · have horder := (le_iff_of_view hm (by decide) hview hhundred).mp hle
        rw [magnitude, if_neg (by omega)]
        obtain hlt | ⟨rfl, hle⟩ := horder
        · have hpow : 2 ^ 47 ≤ 2 ^ (-e).toNat := Nat.pow_le_pow_right (by decide) (by omega)
          have hdiv := Nat.div_le_div_left (a := m) hpow (by decide)
          have := hform.below
          omega
        · change m / 2 ^ 46 ≤ 100
          omega

end Canvasflow.Double
