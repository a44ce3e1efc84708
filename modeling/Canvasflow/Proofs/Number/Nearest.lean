import Canvasflow.Proofs.Number.Exact
import Canvasflow.Proofs.Number.Arithmetic

/-!
# The doubles next to exact numbers

Where `nearest` leads is told by the last place of a number and the fraction behind it. So the
number next to a given one is known from an interval around it (`Normal.nearest_of_near`), and what
is tiny or huge is rounded to zero or to an infinity. `ofDyadic` gives the double next to a mantissa
times a power of two (`roundsTo_ofDyadic`), and an integer has the double next to it
(`ofInt?_eq`).
-/

namespace Canvasflow.Double

open Float.Model Float.Model.UnpackedFloat

variable {q : ℚ} {m : Nat} {e : ℤ}

/-! ## Where rounding leads -/

theorem roundEven_eq {n : ℤ} (hlow : 2 * (n : ℚ) - 1 ≤ 2 * q) (hhigh : 2 * q ≤ 2 * n + 1)
    (hties : n % 2 = 0 ∨ 2 * (n : ℚ) - 1 < 2 * q ∧ 2 * q < 2 * n + 1) : roundEven q = n := by
  unfold roundEven
  rcases lt_or_ge q n with hbelow | habove
  · have hfloor : ⌊q⌋ = n - 1 := by
      rw [Int.floor_eq_iff]
      push_cast
      constructor <;> linarith
    have hfract : Int.fract q = q - (n - 1) := by
      rw [Int.fract, hfloor]
      push_cast
      rfl
    rw [hfract, hfloor, if_neg (by linarith)]
    split
    · omega
    · rcases hties with heven | ⟨hstrict, -⟩
      · omega
      · linarith
  · have hfloor : ⌊q⌋ = n := Int.floor_eq_iff.mpr ⟨habove, by linarith⟩
    have hfract : Int.fract q = q - n := by rw [Int.fract, hfloor]
    rw [hfract, hfloor]
    split
    · rfl
    · rw [if_neg (by linarith)]
      rcases hties with heven | ⟨-, hstrict⟩
      · omega
      · linarith

theorem lastPlace_eq (hpos : 0 < q) (hhigh : q < 2 ^ (53 + e)) (hlow : -1074 ≤ e)
    (hfull : 2 ^ (52 + e) ≤ q ∨ e = -1074) : lastPlace q = e := by
  have hlog : Int.log 2 q < 53 + e := (Int.lt_zpow_iff_log_lt (by decide) hpos).mp hhigh
  rcases hfull with hfull | rfl
  · have hlog' : 52 + e ≤ Int.log 2 q := (Int.zpow_le_iff_le_log (by decide) hpos).mp hfull
    simp only [lastPlace]
    omega
  · simp only [lastPlace]
    omega

theorem nearest_eq_of_lastPlace {n : ℤ} (hpos : 0 ≤ q) (hplace : lastPlace q = e)
    (hround : roundEven (q / 2 ^ e) = n) : nearest q = n * 2 ^ e := by
  rw [nearest_of_nonneg hpos, nearestAbove, hplace, hround]

variable {r : ℚ}

/-- A number with all digits before the last place of a form is rounded in units of that place. -/
theorem Normal.nearest_of_full (h : Normal m e) (hpos : 0 < r) (hfull : 2 ^ 52 ≤ r ∨ e = -1074)
    (hlow : 2 * (m : ℚ) - 1 ≤ 2 * r) (hhigh : 2 * r ≤ 2 * m + 1)
    (hties : m % 2 = 0 ∨ 2 * (m : ℚ) - 1 < 2 * r ∧ 2 * r < 2 * m + 1) :
    nearest (r * 2 ^ e) = m * 2 ^ e := by
  have hunit := two_zpow_pos e
  have hbelow : (m : ℚ) + 1 ≤ 2 ^ 53 := by exact_mod_cast h.below
  have hplace : lastPlace (r * 2 ^ e) = e := by
    refine lastPlace_eq (mul_pos hpos hunit) ?_ h.lowest (hfull.imp_left fun hfull => ?_)
    · rw [zpow_add₀ two_ne_zero]
      exact mul_lt_mul_of_pos_right (by norm_num; linarith) hunit
    · rw [zpow_add₀ two_ne_zero]
      exact mul_le_mul_of_nonneg_right (by exact_mod_cast hfull) hunit.le
  have hround : roundEven (r * 2 ^ e / 2 ^ e) = (m : ℤ) := by
    rw [mul_div_cancel_right₀ _ hunit.ne']
    exact roundEven_eq (by exact_mod_cast hlow) (by exact_mod_cast hhigh)
      (hties.imp (by omega) (by exact_mod_cast id))
  rw [nearest_eq_of_lastPlace (mul_pos hpos hunit).le hplace hround, Int.cast_natCast]

/-- Below a power of two one digit more is kept, so the numbers that are rounded to the power lie
nearer to it. -/
theorem nearest_below_power (hlowest : -1074 < e) (hbelow : r < 2 ^ 52)
    (hnear : 4 * 2 ^ 52 - 1 ≤ 4 * r) : nearest (r * 2 ^ e) = 2 ^ 52 * 2 ^ e := by
  have hunit := two_zpow_pos e
  have hpos : 0 < r * 2 ^ e := mul_pos (by linarith) hunit
  have hdouble : (2 : ℚ) ^ e = 2 * 2 ^ (e - 1) := by
    rw [← zpow_one_add₀ two_ne_zero]
    congr 1
    ring
  have hplace : lastPlace (r * 2 ^ e) = e - 1 := by
    refine lastPlace_eq hpos ?_ (by omega) (.inl ?_)
    · rw [show 53 + (e - 1) = 52 + e by ring, zpow_add₀ two_ne_zero]
      exact mul_lt_mul_of_pos_right (by exact_mod_cast hbelow) hunit
    · rw [show 52 + (e - 1) = 51 + e by ring, zpow_add₀ two_ne_zero]
      exact mul_le_mul_of_nonneg_right (by norm_num; linarith) hunit.le
  have hround : roundEven (r * 2 ^ e / 2 ^ (e - 1)) = 2 ^ 53 := by
    rw [hdouble, ← mul_assoc, mul_div_cancel_right₀ _ (two_zpow_pos (e - 1)).ne']
    refine roundEven_eq ?_ ?_ (.inl (by decide))
    · push_cast
      linarith
    · push_cast
      linarith
  rw [nearest_eq_of_lastPlace hpos.le hplace hround, hdouble]
  push_cast
  ring

/-- A number is rounded to the form that it is no farther from than half a unit. Below a power of
two the units are half as large. -/
theorem Normal.nearest_of_near (h : Normal m e) (hm : 0 < m) (hlow : (2 * m - 1) * 2 ^ e ≤ 2 * q)
    (hlow' : m = 2 ^ 52 → e ≠ -1074 → (4 * m - 1) * 2 ^ e ≤ 4 * q)
    (hhigh : 2 * q ≤ (2 * m + 1) * 2 ^ e)
    (hties : m % 2 = 0 ∨ (2 * m - 1) * 2 ^ e < 2 * q ∧ 2 * q < (2 * m + 1) * 2 ^ e) :
    nearest q = m * 2 ^ e := by
  have hunit := two_zpow_pos e
  obtain ⟨r, rfl⟩ : ∃ r, r * 2 ^ e = q := ⟨q / 2 ^ e, div_mul_cancel₀ q hunit.ne'⟩
  simp only [← mul_assoc, mul_le_mul_iff_left₀ hunit,
    mul_lt_mul_iff_left₀ hunit] at hlow hlow' hhigh hties
  have hone : (1 : ℚ) ≤ m := by exact_mod_cast hm
  by_cases hfull : 2 ^ 52 ≤ r ∨ e = -1074
  · exact h.nearest_of_full (by linarith) hfull hlow hhigh hties
  · obtain ⟨hbelow, hlowest⟩ := not_or.mp hfull
    rw [not_le] at hbelow
    have hpower : m = 2 ^ 52 := by
      have hmin := h.full.resolve_right hlowest
      have hlt : (m : ℚ) < 2 ^ 52 + 1 := by linarith
      have : m < 2 ^ 52 + 1 := by exact_mod_cast hlt
      omega
    have hnear := hlow' hpower hlowest
    rw [hpower, Nat.cast_pow, Nat.cast_ofNat] at hnear ⊢
    exact nearest_below_power (lt_of_le_of_ne h.lowest (Ne.symm hlowest)) hbelow hnear

/-- What is less than half the least double is rounded to zero. -/
theorem nearest_of_tiny (hnonneg : 0 ≤ q) (h : q < 2 ^ (-1075 : ℤ)) : nearest q = 0 := by
  rcases hnonneg.eq_or_lt with rfl | hpos
  · exact nearest_zero
  · have hplace : lastPlace q = -1074 :=
      lastPlace_eq hpos (h.trans (zpow_lt_zpow_right₀ (by norm_num) (by norm_num))) le_rfl
        (.inr rfl)
    have hhalf : 2 * (q / 2 ^ (-1074 : ℤ)) < 1 := by
      rw [← mul_div_assoc, div_lt_one (two_zpow_pos _)]
      calc 2 * q < 2 * 2 ^ (-1075 : ℤ) := mul_lt_mul_of_pos_left h two_pos
        _ = 2 ^ (-1074 : ℤ) := (zpow_one_add₀ two_ne_zero (-1075)).symm
    have hround : roundEven (q / 2 ^ (-1074 : ℤ)) = 0 := by
      have hquotient : 0 < q / 2 ^ (-1074 : ℤ) := div_pos hpos (two_zpow_pos _)
      generalize q / 2 ^ (-1074 : ℤ) = quotient at hhalf hquotient ⊢
      refine roundEven_eq ?_ ?_ (.inl rfl) <;> push_cast <;> linarith
    rw [nearest_eq_of_lastPlace hnonneg hplace hround, Int.cast_zero, zero_mul]

/-- What is beyond the range of doubles stays there. -/
theorem le_nearest_of_huge (h : 2 ^ 1024 ≤ q) : 2 ^ 1024 ≤ nearest q := by
  have hform : Normal (2 ^ 52) 972 := ⟨by decide, by decide, .inl le_rfl⟩
  have hpower : ((2 ^ 52 : ℕ) : ℚ) * 2 ^ (972 : ℤ) = 2 ^ 1024 := by
    rw [Nat.cast_pow]
    exact pow_mul_zpow 52 972
  have hnearest := hform.nearest_eq
  rw [hpower] at hnearest
  rw [← hnearest]
  exact nearest_mono h

/-! ## Signs -/

/-- The view with the other sign. -/
def View.neg : View → View
  | .notANumber => .notANumber
  | .infinite negative => .infinite !negative
  | .finite negative m e => .finite (!negative) m e

/-- An unpacked number that is not rounded is packed to the double that is viewed so. -/
theorem view_pack_of_rounded {u : UnpackedFloat} (h : Rounded u) :
    view (.ofModel (.pack u)) = .ofUnpacked u := by
  cases u with
  | notANumber => decide
  | infinity sign => cases sign <;> decide
  | zero sign => cases sign <;> decide
  | finite sign m e hm => exact view_pack sign hm (h sign m e hm rfl)

theorem view_neg (x : Float) : view (-x) = (view x).neg := by
  change view (.ofModel (.pack x.toModel.unpack.neg)) = _
  have hsign (sign : Sign) : (-sign == Sign.negative) = !(sign == Sign.negative) := by
    cases sign <;> rfl
  rw [view_pack_of_rounded (rounded_unpack x).neg, view_eq x]
  cases x.toModel.unpack <;> simp [UnpackedFloat.neg, View.ofUnpacked, View.neg, hsign]

theorem value_neg (x : Float) : value (-x) = -value x := by
  rw [value, view_neg, value]
  cases view x with
  | finite negative m e => cases negative <;> simp [View.neg, View.value]
  | _ => simp [View.neg, View.value]

theorem RoundsTo.neg {x : Float} (h : RoundsTo x q) : RoundsTo (-x) (-q) := by
  constructor
  · rw [nearest_neg, abs_neg]
    intro hsmall
    obtain ⟨hfinite, hvalue⟩ := h.finite hsmall
    exact ⟨(isFinite_neg x).trans hfinite, by rw [value_neg, hvalue]⟩
  · rw [nearest_neg, abs_neg]
    intro hlarge
    have hzero : q ≠ 0 := by
      rintro rfl
      rw [nearest_zero, abs_zero] at hlarge
      exact absurd hlarge (not_le.mpr (pow_pos two_pos _))
    rw [view_neg, h.infinite hlarge, View.neg, View.infinite.injEq, ← decide_not]
    refine decide_eq_decide.mpr ⟨fun hq => ?_, fun hq => ?_⟩
    · exact neg_lt_zero.mpr (lt_of_le_of_ne (not_lt.mp hq) hzero.symm)
    · exact not_lt.mpr (neg_lt_zero.mp hq).le

theorem RoundsTo.withSign {x : Float} (h : RoundsTo x q) (negative : Bool) :
    RoundsTo (withSign negative x) (if negative then -q else q) := by
  cases negative with
  | false => exact h
  | true => exact h.neg

/-- The doubles next to one number are the same. -/
theorem RoundsTo.same {x y : Float} (hx : RoundsTo x q) (hy : RoundsTo y q) : (x == y) = true := by
  obtain hsmall | hlarge := lt_or_ge |nearest q| (2 ^ 1024)
  · obtain ⟨hfinite, hvalue⟩ := hx.finite hsmall
    obtain ⟨hfinite', hvalue'⟩ := hy.finite hsmall
    rw [beq_iff_value hfinite hfinite', hvalue, hvalue']
  · rw [beq_eq, hx.infinite hlarge, hy.infinite hlarge]
    exact beq_self_eq_true _

/-- A finite double is next to what it stands for. -/
theorem roundsTo_value {x : Float} (h : x.isFinite = true) : RoundsTo x (value x) where
  finite _ := ⟨h, (nearest_value x).symm⟩
  infinite hlarge := by
    rw [nearest_value] at hlarge
    exact absurd hlarge (not_le.mpr (abs_value_lt x))

/-- Numbers that are rounded alike, and have the same sign, have the same double next to them. -/
theorem RoundsTo.of_nearest_eq {x : Float} {p : ℚ} (h : RoundsTo x p)
    (hnearest : nearest p = nearest q) (hsign : p < 0 ↔ q < 0) : RoundsTo x q where
  finite := by
    rw [← hnearest]
    exact h.finite
  infinite := by
    rw [← hnearest, ← decide_eq_decide.mpr hsign]
    exact h.infinite

/-! ## Doubles from their fields -/

theorem view_ofBits (bits : UInt64) :
    view (Float.ofBits bits) = .ofUnpacked (unpack Format.binary64 bits.toBitVec) :=
  view_pack_of_rounded (rounded_unpack_bits bits.toBitVec)

/-- What the bits of a double without a sign stand for, by its exponent field and its fraction. -/
theorem view_ofFields {field fraction : Nat} (hfield : field < 2047)
    (hfraction : fraction < 2 ^ 52) :
    view (Float.ofBits (field * 2 ^ 52 + fraction).toUInt64) =
      if field = 0 then .finite false fraction (-1074)
      else .finite false (fraction + 2 ^ 52) ((field : ℤ) - 1075) := by
  have hbits : (field * 2 ^ 52 + fraction).toUInt64.toBitVec =
      packComponents Format.binary64 .positive (BitVec.ofNat 11 field)
        (BitVec.ofNat 52 fraction) := by
    have hshift : (BitVec.ofNat 11 field).toNat <<< 52 ||| (BitVec.ofNat 52 fraction).toNat =
        field * 2 ^ 52 + fraction := by
      rw [BitVec.toNat_ofNat, BitVec.toNat_ofNat, Nat.mod_eq_of_lt (by omega),
        Nat.mod_eq_of_lt hfraction, ← Nat.shiftLeft_add_eq_or_of_lt hfraction, Nat.shiftLeft_eq]
    rw [← BitVec.toNat_inj, packComponents, BitVec.toNat_append, BitVec.toNat_append]
    change _ = (0 <<< 11 ||| _) <<< 52 ||| _
    rw [Nat.zero_shiftLeft, Nat.zero_or, hshift, UInt64.toNat_toBitVec, Nat.toUInt64,
      UInt64.toNat_ofNat', Nat.mod_eq_of_lt (by omega)]
  have hpositive : (Sign.positive == Sign.negative) = false := rfl
  rw [view_ofBits, hbits, unpack_packComponents .positive hfield hfraction, hpositive]

/-- A double with the form of a rounded number is next to what was rounded. -/
theorem Normal.roundsTo {x : Float} (h : Normal m e) (hq : 0 ≤ q) (hvalue : m * 2 ^ e = nearest q)
    (hfinite : e ≤ 971 → view x = .finite false m e)
    (hinfinite : 971 < e → view x = .infinite false) :
    RoundsTo x q := by
  have hlt := h.lt_iff
  have habs : |nearest q| = m * 2 ^ e := by
    rw [← hvalue, abs_of_nonneg (mul_nonneg (Nat.cast_nonneg m) (two_zpow_pos e).le)]
  rw [hvalue] at hlt
  constructor
  · intro hsmall
    rw [habs, hvalue, hlt] at hsmall
    refine ⟨(isFinite_iff x).mpr ⟨_, _, _, hfinite hsmall⟩, ?_⟩
    rw [value, hfinite hsmall, ← hvalue]
    rfl
  · intro hlarge
    rw [habs, hvalue, ← not_lt, hlt, not_le] at hlarge
    rw [hinfinite hlarge, decide_eq_false (not_lt.mpr hq)]

/-! ## Mantissas and powers of two -/

/-- The quotient of two whole numbers, rounded by its rest. -/
theorem roundEven_div (n : Nat) {d : Nat} (hd : 0 < d) :
    roundEven (n / d) = ((if 2 * (n % d) < d then n / d
      else if d < 2 * (n % d) then n / d + 1 else n / d + n / d % 2 : Nat) : ℤ) := by
  have hd' : (0 : ℚ) < d := by exact_mod_cast hd
  have hfloor : ⌊(n : ℚ) / d⌋ = ((n / d : Nat) : ℤ) :=
    (Rat.floor_natCast_div_natCast n d).trans (Int.natCast_div n d).symm
  have hfract : Int.fract ((n : ℚ) / d) = (n % d : Nat) / d := by
    have hdivmod : (d : ℚ) * (n / d : Nat) + (n % d : Nat) = n := by
      exact_mod_cast Nat.div_add_mod n d
    rw [Int.fract, hfloor, Int.cast_natCast, sub_eq_iff_eq_add, div_eq_iff hd'.ne', add_mul,
      div_mul_cancel₀ _ hd'.ne', ← hdivmod]
    ring
  have hbelow : Int.fract ((n : ℚ) / d) < 1 / 2 ↔ 2 * (n % d) < d := by
    rw [hfract, div_lt_div_iff₀ hd' two_pos]
    norm_cast
    omega
  have habove : 1 / 2 < Int.fract ((n : ℚ) / d) ↔ d < 2 * (n % d) := by
    rw [hfract, div_lt_div_iff₀ two_pos hd']
    norm_cast
    omega
  unfold roundEven
  simp only [hbelow, habove, hfloor]
  split
  · rfl
  · split <;> push_cast <;> rfl

theorem roundEven_shift (n shift : Nat) :
    roundEven (n / 2 ^ shift) = (shiftRoundEven n shift : ℤ) := by
  have hquotient := roundEven_div n (Nat.two_pow_pos shift)
  rw [Nat.cast_pow, Nat.cast_ofNat] at hquotient
  refine hquotient.trans (congrArg Nat.cast ?_)
  rw [shiftRoundEven]
  simp only [Nat.pow_eq]
  cases shift with
  | zero => simp [Nat.mod_one]
  | succ shift => grind

/-- A form of a rounded number is built from its fields. -/
theorem roundsTo_ofFields {significand : Nat} {place : ℤ} (h : Normal significand place)
    (hq : 0 ≤ q) (hvalue : significand * 2 ^ place = nearest q) :
    RoundsTo (if significand < 2 ^ 52 then Float.ofBits significand.toUInt64
      else if 971 < place then infinity
      else Float.ofBits ((place + 1075).toNat * 2 ^ 52 + (significand - 2 ^ 52)).toUInt64) q := by
  refine h.roundsTo hq hvalue (fun hplace => ?_) (fun hplace => ?_)
  · have hform := h.canonical hplace
    have hlowest := hform.lowest
    split
    · rename_i hsmall
      have hview := view_ofFields (show 0 < 2047 by decide) hsmall
      rw [Nat.zero_mul, Nat.zero_add] at hview
      rw [hview, if_pos rfl, hform.full.resolve_left (by omega)]
    · rename_i hlarge
      have hbelow := hform.below
      rw [if_neg (by omega), view_ofFields (by omega) (by omega), if_neg (by omega),
        Nat.sub_add_cancel (by omega), show ((place + 1075).toNat : ℤ) - 1075 = place by omega]
  · have hfull := h.full.resolve_right (by omega)
    rw [if_neg (by omega), if_pos hplace]
    decide

/-- The mantissa that is kept of a number, before a carry is taken in. -/
theorem roundEven_dyadic (m : Nat) (e lowest : ℤ) :
    roundEven (m * 2 ^ e / 2 ^ lowest) = ((if e ≤ lowest then shiftRoundEven m (lowest - e).toNat
      else m * 2 ^ (e - lowest).toNat : Nat) : ℤ) := by
  rw [mul_div_assoc, ← zpow_sub₀ two_ne_zero]
  split
  · obtain ⟨shift, hshift⟩ := Int.le.dest ‹e ≤ lowest›
    rw [zpow_eq_div (show -(e - lowest) = shift by omega), roundEven_shift]
    congr 2
    omega
  · obtain ⟨shift, hshift⟩ := Int.le.dest (Int.le_of_lt (not_le.mp ‹¬e ≤ lowest›))
    rw [show e - lowest = shift by omega, zpow_natCast, Int.toNat_natCast]
    exact_mod_cast roundEven_intCast ((m * 2 ^ shift : ℕ) : ℤ)

/-- A carry is taken into the exponent. -/
theorem normal_of_carry {rounded : Nat} {lowest : ℤ} (hle : rounded ≤ 2 ^ 53)
    (hlowest : -1074 ≤ lowest) (hfull : 2 ^ 52 ≤ rounded ∨ lowest = -1074) :
    Normal (if 2 ^ 53 ≤ rounded then rounded / 2 else rounded)
        (if 2 ^ 53 ≤ rounded then lowest + 1 else lowest) ∧
      ((if 2 ^ 53 ≤ rounded then rounded / 2 else rounded : Nat) : ℚ) *
        2 ^ (if 2 ^ 53 ≤ rounded then lowest + 1 else lowest) = rounded * 2 ^ lowest := by
  by_cases hcarried : 2 ^ 53 ≤ rounded
  · obtain rfl : rounded = 2 ^ 53 := by omega
    rw [if_pos le_rfl, if_pos le_rfl]
    refine ⟨⟨by decide, by omega, .inl (by decide)⟩, ?_⟩
    rw [zpow_add₀ two_ne_zero]
    norm_num
    ring
  · rw [if_neg hcarried, if_neg hcarried]
    exact ⟨⟨by omega, hlowest, hfull⟩, rfl⟩

/-- What is built from a mantissa and a power of two is the double next to the product. -/
theorem roundsTo_ofDyadic (negative : Bool) (hm : 0 < m) (e : ℤ) :
    RoundsTo (ofDyadic negative m e) (if negative then -(m * 2 ^ e) else m * 2 ^ e) := by
  have hq : (0 : ℚ) < m * 2 ^ e := mul_pos (by exact_mod_cast hm) (two_zpow_pos e)
  have hplace : max (e + (bitLength m : ℤ) - 53) (-1074) = lastPlace (m * 2 ^ e) := by
    rw [bitLength, if_neg hm.ne', lastPlace, log_mantissa hm]
    push_cast
    congr 1
    ring
  have hround := roundEven_dyadic m e (lastPlace (m * 2 ^ e))
  have hnearest := nearest_eq_of_lastPlace hq.le rfl hround
  have hle := roundEven_lastPlace_le ((m : ℚ) * 2 ^ e)
  have hfull := le_roundEven_lastPlace hq
  have hlowest : -1074 ≤ lastPlace (m * 2 ^ e) := le_max_right _ _
  rw [hround] at hle hfull
  simp only [ofDyadic, hplace, Nat.pow_eq, decide_eq_true_eq, ← apply_ite (withSign negative)]
  refine RoundsTo.withSign ?_ negative
  generalize lastPlace (m * 2 ^ e) = lowest at *
  generalize (if e ≤ lowest then shiftRoundEven m (lowest - e).toNat
    else m * 2 ^ (e - lowest).toNat) = rounded at *
  obtain ⟨hform, hvalue⟩ := normal_of_carry (by exact_mod_cast hle) hlowest
    (or_iff_not_imp_right.mpr fun h => by exact_mod_cast hfull h)
  exact roundsTo_ofFields hform hq.le (hvalue.trans (by exact_mod_cast hnearest.symm))

theorem signed_natAbs (n : ℤ) : (if decide (n < 0) then -(n.natAbs : ℚ) else n.natAbs) = n := by
  rw [Nat.cast_natAbs, Int.cast_abs]
  by_cases hneg : n < 0
  · rw [if_pos (decide_eq_true hneg), abs_of_neg (by exact_mod_cast hneg), neg_neg]
  · rw [if_neg (by simpa using hneg), abs_of_nonneg (by exact_mod_cast not_lt.mp hneg)]

/-- The double of an integer is the one next to it, unless that is an infinity. -/
theorem ofInt?_eq (n : ℤ) :
    ∃ x, RoundsTo x n ∧ ofInt? n = if x.isFinite then some x else none := by
  refine ⟨_, ?_, rfl⟩
  split
  · rename_i hsmall
    obtain ⟨hfinite, hvalue⟩ := standsFor_ofInt hsmall
    exact hvalue ▸ roundsTo_value hfinite
  · rename_i hlarge
    have hpos : 0 < n.natAbs := (Nat.two_pow_pos 53).trans_le (not_lt.mp hlarge)
    have hdyadic := roundsTo_ofDyadic (decide (n < 0)) hpos 0
    rwa [zpow_zero, mul_one, signed_natAbs] at hdyadic

end Canvasflow.Double
