import Canvasflow.Number.Double
import Mathlib

/-!
# The parts of doubles

`Double.view` reads the bits of a double, while arithmetic and comparison are defined on the
unpacked form of the language's own doubles. Here the two are tied together: the view is the
unpacked form, `beq_eq` compares doubles by their views, and a number that has a canonical form is
neither changed by packing (`view_pack`) nor by rounding (`round_exact`).
-/

namespace Canvasflow.Double

open Float.Model Float.Model.UnpackedFloat

/-! ## Views and unpacked doubles -/

/-- The view of an unpacked double. -/
def View.ofUnpacked : UnpackedFloat → View
  | .notANumber => .notANumber
  | .infinity sign => .infinite (sign == .negative)
  | .zero sign => .finite (sign == .negative) 0 (-1074)
  | .finite sign mantissa exponent _ => .finite (sign == .negative) mantissa exponent

theorem unpackMantissa_toNat (b : BitVec 64) :
    (@unpackMantissa Format.binary64 b).toNat = b.toNat % 2 ^ 52 := by
  simp [unpackMantissa, BitVec.extractLsb_toNat]

theorem unpackExponent_toNat (b : BitVec 64) :
    (@unpackExponent Format.binary64 b).toNat = b.toNat / 2 ^ 52 % 2 ^ 11 := by
  simp [unpackExponent, BitVec.extractLsb_toNat, Nat.shiftRight_eq_div_pow]

theorem unpackSign_toNat (b : BitVec 64) :
    (@unpackSign Format.binary64 b).toNat = b.toNat / 2 ^ 63 := by
  have h : b.toNat / 2 ^ 63 < 2 := by have := b.isLt; omega
  simp [unpackSign, BitVec.extractLsb_toNat, Nat.shiftRight_eq_div_pow]
  omega

theorem ofBitVec_negative (b : BitVec 1) : (Sign.ofBitVec b == .negative) = (b.toNat == 1) := by
  revert b; decide

theorem implicit_toNat (m : BitVec 52) : (1#1 ++ m).toNat = m.toNat + 2 ^ 52 := by
  rw [BitVec.toNat_append, ← Nat.shiftLeft_add_eq_or_of_lt m.isLt]
  simp [Nat.shiftLeft_eq, Nat.add_comm]

/-- The view is the unpacked form. -/
theorem view_eq (x : Float) : view x = .ofUnpacked x.toModel.unpack := by
  have hm := unpackMantissa_toNat x.toModel.toBits.toBitVec
  have he := unpackExponent_toNat x.toModel.toBits.toBitVec
  have hs := unpackSign_toNat x.toModel.toBits.toBitVec
  have hbits : x.toBits.toNat = x.toModel.toBits.toBitVec.toNat := rfl
  unfold Float.Model.unpack view
  simp only [Float.Model.UnpackedFloat.unpack, hbits, Nat.pow_eq]
  rw [← hm, ← he, ← hs]
  have hfull (e : BitVec 11) : e = -1#11 ↔ e.toNat = 2047 := BitVec.toNat_inj.symm
  have hzero (e : BitVec 11) : e = 0#11 ↔ e.toNat = 0 := BitVec.toNat_inj.symm
  have hnone (m : BitVec 52) : m = 0#52 ↔ m.toNat = 0 := BitVec.toNat_inj.symm
  -- an exponent of ones is that of the infinities, one of zeros that of the subnormal numbers
  split <;> rename_i h1
  · rw [if_pos ((hfull _).mpr h1)]
    split <;> rename_i h2
    · rw [if_pos ((hnone _).mpr h2)]
      simp [View.ofUnpacked, ofBitVec_negative]
    · rw [if_neg ((hnone _).not.mpr h2)]
      simp [View.ofUnpacked]
  · rw [if_neg ((hfull _).not.mpr h1)]
    split <;> rename_i h2
    · rw [if_pos ((hzero _).mpr h2)]
      split <;> rename_i h3
      · simp [View.ofUnpacked, ofBitVec_negative, (hnone _).mp h3]
      · simp [h2, View.ofUnpacked, ofBitVec_negative, Format.exponentBias]
    · rw [if_neg ((hzero _).not.mpr h2)]
      simp [View.ofUnpacked, ofBitVec_negative, implicit_toNat, Format.exponentBias]

/-- The forms that a mantissa and an exponent have in a double: the mantissa uses its 53 bits unless
the exponent is the least one. -/
structure Canonical (mantissa : Nat) (exponent : Int) : Prop where
  below : mantissa < 2 ^ 53
  lowest : -1074 ≤ exponent
  highest : exponent ≤ 971
  full : 2 ^ 52 ≤ mantissa ∨ exponent = -1074

theorem view_canonical {x : Float} {negative : Bool} {m : Nat} {e : Int}
    (h : view x = .finite negative m e) : Canonical m e := by
  unfold view at h
  simp only [Nat.pow_eq] at h
  have hm : x.toBits.toNat % 2 ^ 52 < 2 ^ 52 := Nat.mod_lt _ (by decide)
  have he : x.toBits.toNat / 2 ^ 52 % 2 ^ 11 < 2 ^ 11 := Nat.mod_lt _ (by decide)
  split at h
  · split at h <;> cases h
  · split at h <;> injection h with _ h₁ h₂
    · exact ⟨by omega, by omega, by omega, .inr (by omega)⟩
    · exact ⟨by omega, by omega, by omega, .inl (by omega)⟩

theorem isFinite_iff (x : Float) :
    x.isFinite = true ↔ ∃ negative m e, view x = .finite negative m e := by
  rw [view_eq]
  change x.toModel.unpack.isFinite = true ↔ _
  cases x.toModel.unpack <;> simp [View.ofUnpacked, UnpackedFloat.isFinite]

theorem isNaN_iff (x : Float) : x.isNaN = true ↔ view x = .notANumber := by
  rw [view_eq]
  change x.toModel.unpack.isNaN = true ↔ _
  cases x.toModel.unpack <;> simp [View.ofUnpacked, UnpackedFloat.isNaN]

/-- Whether two views are the same number; the zeros are one. -/
def View.same : View → View → Bool
  | .infinite a, .infinite b => a == b
  | .finite a m e, .finite b n k => (m == 0 && n == 0) || (a == b && m == n && e == k)
  | _, _ => false

/-- Doubles are compared by their views. -/
theorem beq_eq (x y : Float) : (x == y) = (view x).same (view y) := by
  rw [view_eq, view_eq]
  change (x.toModel.unpack.compare y.toModel.unpack == some .eq) = _
  have hpos : (Sign.positive == Sign.negative) = false := rfl
  have hn : compare Sign.negative Sign.negative = .eq := rfl
  have hp : compare Sign.positive Sign.positive = .eq := rfl
  have hnp : compare Sign.negative Sign.positive = .lt := rfl
  have hpn : compare Sign.positive Sign.negative = .gt := rfl
  rcases x.toModel.unpack with ⟨_ | _⟩ | _ | ⟨_ | _⟩ | ⟨_ | _, m, e, hm⟩ <;>
    rcases y.toModel.unpack with ⟨_ | _⟩ | _ | ⟨_ | _⟩ | ⟨_ | _, n, k, hn⟩ <;>
    simp [UnpackedFloat.compare, View.ofUnpacked, View.same, hpos, hn, hp, hnp, hpn]
  all_goals try omega
  -- what is left are finite numbers of one sign, which are compared by exponent and mantissa
  all_goals
    rw [Bool.eq_iff_iff]
    simp [Ordering.then_eq_eq]
    omega

theorem View.same_comm (v w : View) : v.same w = w.same v := by
  cases v <;> cases w <;> try rfl
  · exact BEq.comm
  case finite.finite a m e b n k =>
    rw [View.same, View.same, Bool.and_comm (m == 0), show (a == b) = (b == a) from BEq.comm,
      show (m == n) = (n == m) from BEq.comm, show (e == k) = (k == e) from BEq.comm]

theorem beq_comm (x y : Float) : (x == y) = (y == x) := by
  rw [beq_eq, beq_eq, View.same_comm]

/-! ## Packing and rounding -/

@[simp] theorem ofBitVec_toBitVec (sign : Sign) : Sign.ofBitVec sign.toBitVec = sign := by
  cases sign <;> rfl

@[simp] theorem unpackSign_packComponents (spec : Format) (sign : Sign)
    (e : BitVec spec.exponentBits) (m : BitVec spec.mantissaBitsWithoutImplicit) :
    unpackSign (packComponents spec sign e m) = sign.toBitVec := by
  apply BitVec.eq_of_getLsbD_eq
  intro i hi
  obtain rfl : i = 0 := by omega
  simp [unpackSign, packComponents, BitVec.getLsbD_append, BitVec.getElem_append]

/-- What fields that are not all ones stand for. -/
theorem unpack_packComponents (sign : Sign) {e m : Nat} (he : e < 2047) (hm : m < 2 ^ 52) :
    View.ofUnpacked (unpack Format.binary64
      (packComponents Format.binary64 sign (BitVec.ofNat 11 e) (BitVec.ofNat 52 m))) =
      if e = 0 then .finite (sign == .negative) m (-1074)
      else .finite (sign == .negative) (m + 2 ^ 52) ((e : Int) - 1075) := by
  have hfull : BitVec.ofNat 11 e ≠ -1#11 := by
    rw [ne_eq, ← BitVec.toNat_inj, BitVec.toNat_ofNat, Nat.mod_eq_of_lt (by omega)]
    change ¬e = 2047
    omega
  have hzero : BitVec.ofNat 11 e = 0#11 ↔ e = 0 := by
    rw [← BitVec.toNat_inj, BitVec.toNat_ofNat, Nat.mod_eq_of_lt (by omega)]
    rfl
  have hnone : BitVec.ofNat 52 m = 0#52 ↔ m = 0 := by
    rw [← BitVec.toNat_inj, BitVec.toNat_ofNat, Nat.mod_eq_of_lt hm]
    rfl
  unfold UnpackedFloat.unpack
  simp only [unpackMantissa_packComponents, unpackExponent_packComponents,
    unpackSign_packComponents, ofBitVec_toBitVec]
  rw [if_neg hfull]
  by_cases h : e = 0
  · rw [if_pos (hzero.mpr h), if_pos h]
    split <;> rename_i hm0
    · simp [View.ofUnpacked, hnone.mp hm0]
    · simp [View.ofUnpacked, h, Format.exponentBias]
      omega
  · rw [if_neg (hzero.not.mpr h), if_neg h]
    simp only [View.ofUnpacked, implicit_toNat, BitVec.toNat_ofNat, Nat.mod_eq_of_lt hm,
      Format.exponentBias, Nat.mod_eq_of_lt (show e < 2 ^ 11 by omega)]
    congr 1

/-- A canonical form is packed without a loss. -/
theorem view_pack (sign : Sign) {m : Nat} {e : Int} (hm : 0 < m) (h : Canonical m e) :
    view (.ofModel (.pack (.finite sign m e hm))) = .finite (sign == .negative) m e := by
  obtain ⟨hbelow, hlow, hhigh, hfull⟩ := h
  rw [view_eq]
  change View.ofUnpacked (unpack Format.binary64 (pack Format.binary64 (.finite sign m e hm))) = _
  have hlog : m.log2 < 53 := (Nat.log2_lt hm.ne').mpr hbelow
  unfold UnpackedFloat.pack
  simp only [Format.mantissaBits, Format.exponentBias]
  have hbiased : (e + (1023 : Nat) + (52 : Nat)).toNat = (e + 1075).toNat := by omega
  -- a mantissa of 53 bits loses its highest one, and a shorter one gets the exponent zero
  change View.ofUnpacked (unpack Format.binary64
    (if 2048 ≤ (e + (1023 : Nat) + (52 : Nat)).toNat + 1 then packedInfinity Format.binary64 sign
    else if m.log2 + 1 = 53 then packComponents Format.binary64 sign
      (BitVec.ofNat 11 (e + (1023 : Nat) + (52 : Nat)).toNat) (BitVec.ofNat 52 m)
    else packComponents Format.binary64 sign (BitVec.ofNat 11 0) (BitVec.ofNat 52 m))) = _
  rw [hbiased]
  rw [if_neg (by omega)]
  by_cases hnormal : m.log2 + 1 = 53
  · have hmin : 2 ^ 52 ≤ m := (Nat.le_log2 hm.ne').mp (by omega)
    have hrest : BitVec.ofNat 52 m = BitVec.ofNat 52 (m - 2 ^ 52) := by
      rw [← BitVec.toNat_inj]
      simp only [BitVec.toNat_ofNat]
      omega
    rw [if_pos hnormal, hrest, unpack_packComponents sign (by omega) (by omega),
      if_neg (by omega), Nat.sub_add_cancel hmin,
      show ((e + 1075).toNat : Int) - 1075 = e by omega]
  · have hsmall : m < 2 ^ 52 := (Nat.log2_lt hm.ne').mp (by omega)
    rw [if_neg hnormal]
    rw [unpack_packComponents sign (by omega) hsmall, if_pos rfl, hfull.resolve_left (by omega)]

/-- Bits that are zero are dropped without a trace. -/
theorem mantissa_shiftRight (k m : Nat) :
    (⟨m * 2 ^ k, false, false⟩ : ExtendedMantissa) >>> k = ⟨m, false, false⟩ := by
  change Nat.repeat ExtendedMantissa.shiftRightOne k _ = _
  induction k generalizing m with
  | zero => simp [Nat.repeat]
  | succ k ih =>
    have h : m * 2 ^ (k + 1) = (2 * m) * 2 ^ k := by
      rw [Nat.pow_succ, Nat.mul_comm 2 m, Nat.mul_assoc, Nat.mul_comm 2]
    rw [Nat.repeat, h, ih]
    simp [ExtendedMantissa.shiftRightOne]

theorem log2_mul_two_pow {m : Nat} (hm : 0 < m) (k : Nat) : (m * 2 ^ k).log2 = m.log2 + k := by
  rw [Nat.log2_eq_iff (by positivity)]
  have hlow := Nat.log2_self_le hm.ne'
  have hhigh := Nat.lt_log2_self (n := m)
  constructor
  · rw [Nat.pow_add]
    exact Nat.mul_le_mul_right _ hlow
  · rw [Nat.add_right_comm, Nat.pow_add]
    exact Nat.mul_lt_mul_of_pos_right hhigh (by positivity)

/-- The exponent that rounding aims at is that of the canonical form. -/
theorem targetExponent_eq {m k : Nat} {e : Int} (hm : 0 < m) (h : Canonical m (e + k)) :
    Format.binary64.targetExponent (totalExponent (m * 2 ^ k) e) = e + k := by
  obtain ⟨hbelow, hlow, hhigh, hfull⟩ := h
  have hlog : (m * 2 ^ k).log2 = m.log2 + k := log2_mul_two_pow hm k
  have hlt : m.log2 < 53 := (Nat.log2_lt hm.ne').mpr hbelow
  have hle : 2 ^ 52 ≤ m → 52 ≤ m.log2 := (Nat.le_log2 hm.ne').mpr
  simp only [Format.targetExponent, totalExponent, Format.mantissaBits, Format.minExponent, hlog]
  push_cast
  omega

/-- A canonical form that is shifted is found again. -/
theorem shift_exact {m k : Nat} {e : Int} (hm : 0 < m) (h : Canonical m (e + k)) :
    shiftToTargetExponent Format.binary64 (m * 2 ^ k) e .exact = (⟨m, false, false⟩, e + k) := by
  have hk : (e + (k : Int) - e).toNat = k := by omega
  simp only [shiftToTargetExponent, shiftToExponent, targetExponent_eq hm h, hk,
    ExtendedMantissa.ofMantissaAndAccuracy, mantissa_shiftRight]

/-- Rounding a number that has a canonical form gives the form. -/
theorem round_exact (sign : Sign) {m k : Nat} {e : Int} (hm : 0 < m) (h : Canonical m (e + k)) :
    roundWithAccuracy Format.binary64 sign (m * 2 ^ k) e .exact = .finite sign m (e + k) hm := by
  -- rounding shifts once more for a carry, and there is none
  have hsecond := shift_exact (k := 0) hm (by simpa using h)
  simp only [pow_zero, mul_one, Nat.cast_zero, add_zero] at hsecond
  unfold roundWithAccuracy
  simp only [shift_exact hm h, ExtendedMantissa.roundedMantissa, ExtendedMantissa.accuracy,
    Accuracy.roundToNearestEven, hsecond, hm.ne', dif_neg, not_false_eq_true]

theorem round_canonical (sign : Sign) {m : Nat} {e : Int} (hm : 0 < m) (h : Canonical m e) :
    roundWithAccuracy Format.binary64 sign m e .exact = .finite sign m e hm := by
  have hround := round_exact sign (k := 0) hm (by simpa using h)
  simpa using hround

end Canvasflow.Double
