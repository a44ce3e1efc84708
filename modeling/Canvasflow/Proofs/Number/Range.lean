import Canvasflow.Number
import Canvasflow.Proofs.Number.Whole

/-!
# The integers within the range of doubles

An integer has a nearest double exactly when its magnitude is below `doubleRange`, the number
halfway between the greatest double and the next power of two: from there on it is rounded to an
infinity. Every such integer has few enough digits to be written.
-/

namespace Canvasflow.Double

open Float.Model Float.Model.UnpackedFloat

/-! ## Finite bits -/

/-- An unpacked double that is not rounded when it is packed. -/
def Rounded (u : UnpackedFloat) : Prop :=
  ∀ sign m e hm, u = .finite sign m e hm → Canonical m e

theorem isFinite_pack {u : UnpackedFloat} (h : Rounded u) :
    (Float.ofModel (.pack u)).isFinite = u.isFinite := by
  cases u with
  | notANumber => decide
  | infinity sign => cases sign <;> decide
  | zero sign => cases sign <;> decide
  | finite sign m e hm =>
    rw [(isFinite_iff _).mpr ⟨_, _, _, view_pack sign hm (h sign m e hm rfl)⟩]
    rfl

theorem rounded_unpack (x : Float) : Rounded x.toModel.unpack := by
  intro sign m e hm h
  have hview : view x = .finite (sign == .negative) m e := by
    rw [view_eq, h]
    rfl
  exact view_canonical hview

theorem Rounded.neg {u : UnpackedFloat} (h : Rounded u) : Rounded u.neg := by
  intro sign m e hm hneg
  cases u with
  | finite sign' m' e' hm' =>
    cases hneg
    exact h sign' _ _ hm' rfl
  | _ => cases hneg

theorem isFinite_unpacked_neg (u : UnpackedFloat) : u.neg.isFinite = u.isFinite := by
  cases u <;> rfl

theorem isFinite_neg (x : Float) : (-x).isFinite = x.isFinite := by
  change (Float.ofModel (.pack x.toModel.unpack.neg)).isFinite = x.toModel.unpack.isFinite
  rw [isFinite_pack (rounded_unpack x).neg, isFinite_unpacked_neg]

/-- Bits are unpacked to a form that a double has. -/
theorem rounded_unpack_bits (bits : BitVec 64) : Rounded (unpack Format.binary64 bits) := by
  have hm := unpackMantissa_toNat bits
  have he := unpackExponent_toNat bits
  intro sign m e _ h
  unfold UnpackedFloat.unpack at h
  dsimp only at h
  split at h
  · split at h <;> cases h
  · rename_i hfull
    rw [← BitVec.toNat_inj, he] at hfull
    change ¬_ = 2047 at hfull
    split at h
    · rename_i hzero
      rw [← BitVec.toNat_inj, he] at hzero
      change _ = 0 at hzero
      split at h
      · cases h
      · injection h with _ hmantissa hexponent
        rw [hm] at hmantissa
        simp only [Format.exponentBias, he, hzero] at hexponent
        have := Nat.mod_lt bits.toNat (show 0 < 2 ^ 52 by decide)
        have hlowest : e = -1074 := hexponent.symm
        exact ⟨by omega, by omega, by omega, .inr hlowest⟩
    · rename_i hnonzero
      rw [← BitVec.toNat_inj, he] at hnonzero
      change ¬_ = 0 at hnonzero
      injection h with _ hmantissa hexponent
      rw [implicit_toNat, hm] at hmantissa
      rw [he] at hexponent
      have hexponent : e = (bits.toNat / 2 ^ 52 % 2 ^ 11 : Nat) - 1075 := hexponent.symm
      exact ⟨by omega, by omega, by omega, .inl (by omega)⟩

/-- Bits whose exponent is not all ones are those of a finite double. -/
theorem isFinite_ofBits {bits : UInt64} (h : bits.toNat / 2 ^ 52 % 2 ^ 11 < 2047) :
    (Float.ofBits bits).isFinite = true := by
  change (Float.ofModel (.pack (unpack Format.binary64 bits.toBitVec))).isFinite = true
  have hfull : @unpackExponent Format.binary64 bits.toBitVec ≠ -1#11 := by
    rw [ne_eq, ← BitVec.toNat_inj, unpackExponent_toNat, UInt64.toNat_toBitVec]
    change ¬_ = 2047
    omega
  rw [isFinite_pack (rounded_unpack_bits _)]
  unfold UnpackedFloat.unpack
  rw [if_neg hfull]
  split
  · split <;> rfl
  · rfl

theorem isFinite_withSign (negative : Bool) (x : Float) :
    (withSign negative x).isFinite = x.isFinite := by
  cases negative
  · rfl
  · exact isFinite_neg x

/-! ## The nearest double of an integer -/

/-- The least magnitude that is rounded to an infinity, halfway from the greatest double to
2 ^ 1024. -/
def doubleRange : Nat := (2 ^ 54 - 1) * 2 ^ 970

/-- A quotient with 53 bits is rounded up to the next power of two exactly when the number is at
least halfway to it. -/
theorem carried_iff {half quotient rest : Nat} (hquotient : quotient < 2 ^ 53)
    (hrest : rest < 2 * half) :
    2 ^ 53 ≤ (if rest < half then quotient
      else if half < rest then quotient + 1 else quotient + quotient % 2) ↔
      2 ^ 53 * (2 * half) - half ≤ 2 * half * quotient + rest := by
  -- only the greatest quotient is rounded up to the power, and it is odd, so a tie goes up
  by_cases hlast : quotient = 2 ^ 53 - 1
  · subst hlast
    split
    · omega
    · split <;> omega
  · have hnext : 2 * half * (quotient + 1) ≤ 2 * half * (2 ^ 53 - 1) :=
      Nat.mul_le_mul_left _ (by omega)
    rw [Nat.mul_add] at hnext
    split
    · omega
    · split <;> omega

theorem shiftRoundEven_carry {n shift : Nat} (hn : n < 2 ^ (53 + (shift + 1))) :
    2 ^ 53 ≤ shiftRoundEven n (shift + 1) ↔ 2 ^ (53 + (shift + 1)) - 2 ^ shift ≤ n := by
  have hpow : 2 ^ (53 + (shift + 1)) = 2 ^ 53 * (2 * 2 ^ shift) := by ring
  have hdouble : 2 ^ (shift + 1) = 2 * 2 ^ shift := by ring
  have hrest := Nat.mod_lt n (show 0 < 2 * 2 ^ shift by positivity)
  have hquotient : n / (2 * 2 ^ shift) < 2 ^ 53 :=
    Nat.div_lt_of_lt_mul (by rwa [hpow, Nat.mul_comm] at hn)
  have hcarried := carried_iff hquotient hrest
  rw [Nat.div_add_mod] at hcarried
  rw [hpow, ← hcarried, shiftRoundEven]
  simp [hdouble]

theorem shiftRoundEven_bounds (n shift : Nat) :
    n / 2 ^ shift ≤ shiftRoundEven n shift ∧ shiftRoundEven n shift ≤ n / 2 ^ shift + 1 := by
  unfold shiftRoundEven
  simp only [Nat.pow_eq]
  split
  · omega
  · split <;> omega

/-- Where the range ends, by the exponents that integers have when they are rounded. -/
theorem lt_doubleRange_iff {n shift : Nat} (hle : 2 ^ (53 + shift) ≤ n)
    (hlt : n < 2 ^ (53 + (shift + 1))) :
    n < doubleRange ↔
      (if 2 ^ (53 + (shift + 1)) - 2 ^ shift ≤ n then shift + 2 else shift + 1) ≤ 971 := by
  have hbelow (k : Nat) : 2 ^ (53 + (k + 1)) - 2 ^ k = (2 ^ 54 - 1) * 2 ^ k := by
    rw [show 53 + (k + 1) = 54 + k by omega, pow_add, Nat.sub_mul, Nat.one_mul]
  have hgrows {j k : Nat} (h : j ≤ k) : 2 ^ j ≤ 2 ^ k := Nat.pow_le_pow_right two_pos h
  have hsplit : 2 ^ (53 + shift) = 2 ^ 53 * 2 ^ shift := pow_add _ _ _
  have hsplit' : 2 ^ (53 + (shift + 1)) = 2 ^ 54 * 2 ^ shift := by
    rw [show 53 + (shift + 1) = 54 + shift by omega, pow_add]
  rw [hbelow, doubleRange]
  -- the last power is only compared with its neighbours, so its digits are never needed
  obtain hsmall | rfl | hlarge := Nat.lt_trichotomy shift 970
  · have hnext : 2 ^ (shift + 1) ≤ 2 ^ 970 := hgrows hsmall
    rw [pow_succ] at hnext
    generalize 2 ^ 970 = last at hnext ⊢
    split <;> omega
  · split <;> omega
  · have hnext : 2 ^ 971 ≤ 2 ^ shift := hgrows hlarge
    rw [show 971 = 970 + 1 by rfl, pow_succ] at hnext
    generalize 2 ^ 970 = last at hnext ⊢
    split <;> omega

/-- A large integer has a finite nearest double exactly within the range of doubles. -/
theorem isFinite_ofDyadic (negative : Bool) {n : Nat} (hn : 2 ^ 53 ≤ n) :
    (ofDyadic negative n 0).isFinite = true ↔ n < doubleRange := by
  have hpos : n ≠ 0 := by omega
  obtain ⟨shift, hlog⟩ : ∃ shift, n.log2 = 53 + shift :=
    Nat.exists_eq_add_of_le ((Nat.le_log2 hpos).mpr hn)
  have hle : 2 ^ (53 + shift) ≤ n := (Nat.le_log2 hpos).mp (by omega)
  have hlt : n < 2 ^ (53 + (shift + 1)) := (Nat.log2_lt hpos).mp (by omega)
  have hcarry := shiftRoundEven_carry hlt
  obtain ⟨hlow, hhigh⟩ := shiftRoundEven_bounds n (shift + 1)
  have hquotient : 2 ^ 52 ≤ n / 2 ^ (shift + 1) := by
    rw [Nat.le_div_iff_mul_le (by positivity), ← pow_add]
    exact (Nat.pow_le_pow_right (by decide) (by omega)).trans hle
  have hquotient' : n / 2 ^ (shift + 1) < 2 ^ 53 := by
    refine Nat.div_lt_of_lt_mul ?_
    rwa [← pow_add, Nat.add_comm]
  have hlowest : max ((0 : Int) + (n.log2 + 1 : Nat) - 53) (-1074) = shift + 1 := by omega
  have hshift : ((shift : Int) + 1 - 0).toNat = shift + 1 := by omega
  -- what is built from a significand with 53 bits, by its place
  have hbuilt (place : Int) (hplace : 0 < place) (significand : Nat)
      (hsignificand : significand < 2 ^ 53) :
      (if 971 < place then withSign negative infinity
        else withSign negative (Float.ofBits
          ((place + 1075).toNat * 2 ^ 52 + (significand - 2 ^ 52)).toUInt64)).isFinite = true ↔
        place ≤ 971 := by
    split
    · refine iff_of_false ?_ (by omega)
      rw [isFinite_withSign]
      decide
    · refine iff_of_true ?_ (by omega)
      rw [isFinite_withSign]
      refine isFinite_ofBits ?_
      simp only [Nat.toUInt64, UInt64.toNat_ofNat']
      omega
  rw [lt_doubleRange_iff hle hlt]
  unfold ofDyadic
  simp only [bitLength, if_neg hpos, hlowest, Nat.pow_eq, hshift,
    if_pos (show (0 : Int) ≤ shift + 1 by omega)]
  generalize shiftRoundEven n (shift + 1) = rounded at hcarry hlow hhigh ⊢
  by_cases hcarried : 2 ^ 53 ≤ rounded
  · simp only [hcarried, decide_true, if_true]
    rw [if_neg (by omega), hbuilt _ (by omega) _ (by omega), if_pos (hcarry.mp hcarried)]
    omega
  · simp only [hcarried, decide_false, Bool.false_eq_true, if_false]
    rw [if_neg (by omega), hbuilt _ (by omega) _ (by omega), if_neg (hcarry.not.mp hcarried)]
    omega

theorem two_pow_le_doubleRange {k : Nat} (h : k ≤ 970) : 2 ^ k ≤ doubleRange := by
  have hle : 2 ^ k ≤ 2 ^ 970 := Nat.pow_le_pow_right two_pos h
  unfold doubleRange
  generalize 2 ^ 970 = last at hle ⊢
  omega

/-- An integer has a nearest double exactly within the range of doubles. -/
theorem ofInt?_isSome_iff (n : Int) : (ofInt? n).isSome = true ↔ n.natAbs < doubleRange := by
  unfold ofInt?
  simp only [Nat.pow_eq]
  by_cases hsmall : n.natAbs < 2 ^ 53
  · rw [if_pos hsmall, if_pos (isFinite_ofInt hsmall)]
    exact iff_of_true rfl (hsmall.trans_le (two_pow_le_doubleRange (by decide)))
  · rw [if_neg hsmall, ← isFinite_ofDyadic (decide (n < 0)) (Nat.not_lt.mp hsmall)]
    split <;> rename_i h <;> simp [h]

theorem lt_pow_of_lt_doubleRange {n k : Nat} (h : n < doubleRange) (hk : 1024 ≤ k) :
    n < Nat.pow 2 k := by
  calc n < (2 ^ 54 - 1) * 2 ^ 970 := h
    _ ≤ 2 ^ 54 * 2 ^ 970 := Nat.mul_le_mul_right _ (Nat.sub_le _ _)
    _ = 2 ^ 1024 := (pow_add 2 54 970).symm
    _ ≤ 2 ^ k := Nat.pow_le_pow_right two_pos hk

end Canvasflow.Double

namespace Canvasflow.Number

/-- A number within the range of doubles. -/
def InRange : Number → Prop
  | int n => n.natAbs < Double.doubleRange
  | double _ => True

/-- Exactly the numbers within the range of doubles have a nearest double. -/
theorem toFloat?_isSome_iff (a : Number) : a.toFloat?.isSome = true ↔ a.InRange := by
  cases a with
  | int n => exact Double.ofInt?_isSome_iff n
  | double x => exact iff_of_true rfl trivial

/-- An integer within the range of doubles can be written. -/
theorem intText?_of_range {n : Int} (h : n.natAbs < Double.doubleRange) :
    intText? n = some (toString n) := by
  rw [intText?, if_pos (Double.lt_pow_of_lt_doubleRange h (by decide))]

end Canvasflow.Number
