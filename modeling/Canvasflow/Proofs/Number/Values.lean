import Canvasflow.Proofs.Number.Range
import Canvasflow.Proofs.Number.Rounding

/-!
# The values of doubles

A finite double stands for an exact number, its `value`. Doubles are compared by their values
(`lt_iff_value`), and the whole part is that of the value (`floor?_eq`). What rounding makes of an
unpacked number is packed to the double next to it (`Rounds.becomes`), an infinity if it is rounded to
2 ^ 1024 or more.
-/

namespace Canvasflow.Double

open Float.Model Float.Model.UnpackedFloat

/-- The number that a view stands for; zero for what is no number and for the infinities. -/
def View.value : View → ℚ
  | .finite negative m e => if negative then -(m * 2 ^ e) else m * 2 ^ e
  | _ => 0

/-- The number that a finite double stands for. -/
def value (x : Float) : ℚ :=
  (view x).value

/-- The number that an unpacked double stands for. -/
def valueOf (u : UnpackedFloat) : ℚ :=
  (View.ofUnpacked u).value

theorem value_eq_valueOf (x : Float) : value x = valueOf x.toModel.unpack := by
  rw [value, view_eq, valueOf]

/-! ## Packing -/

/-- Whether a double is the one next to a number. A number that is rounded to 2 ^ 1024 or more in
magnitude has an infinity next to it. -/
structure RoundsTo (x : Float) (q : ℚ) : Prop where
  finite (h : |nearest q| < 2 ^ 1024) : x.isFinite = true ∧ value x = nearest q
  infinite (h : 2 ^ 1024 ≤ |nearest q|) : view x = .infinite (decide (q < 0))

/-- Whether an unpacked double becomes the double next to a number. -/
def Becomes (u : UnpackedFloat) (q : ℚ) : Prop :=
  RoundsTo (.ofModel (.pack u)) q

/-- The value of a finite double is the rounded number. -/
theorem RoundsTo.value_eq {x : Float} {q : ℚ} (h : RoundsTo x q) (hx : x.isFinite = true) :
    value x = nearest q := by
  obtain hsmall | hlarge := lt_or_ge |nearest q| (2 ^ 1024)
  · exact (h.finite hsmall).2
  · obtain ⟨negative, m, e, hview⟩ := (isFinite_iff x).mp hx
    rw [h.infinite hlarge] at hview
    cases hview

/-- What has the form of a rounded number is not rounded. -/
theorem Normal.nearest_eq {m : Nat} {e : ℤ} (h : Normal m e) : nearest (m * 2 ^ e) = m * 2 ^ e := by
  obtain rfl | hm := Nat.eq_zero_or_pos m
  · simp
  · have hplace : lastPlace (m * 2 ^ e) = e := by
      have hlt : m.log2 < 53 := (Nat.log2_lt hm.ne').mpr h.below
      have hle : 2 ^ 52 ≤ m → 52 ≤ m.log2 := (Nat.le_log2 hm.ne').mpr
      have := h.full
      have := h.lowest
      simp only [lastPlace, log_mantissa hm]
      omega
    rw [nearest_of_nonneg (by positivity), nearestAbove, hplace,
      mul_div_cancel_right₀ _ (two_zpow_pos e).ne', show (m : ℚ) = ((m : ℤ) : ℚ) by norm_cast,
      roundEven_intCast]

theorem nearest_value (x : Float) : nearest (value x) = value x := by
  rw [value]
  cases hview : view x with
  | notANumber => exact nearest_zero
  | infinite negative => exact nearest_zero
  | finite negative m e =>
    have hform := (view_canonical hview).normal.nearest_eq
    cases negative with
    | false => simpa [View.value] using hform
    | true => simp [View.value, nearest_neg, hform]

theorem value_pack_zero (sign : Sign) : value (.ofModel (.pack (.zero sign))) = 0 := by
  have hview : ∃ negative, view (.ofModel (.pack (.zero sign))) = .finite negative 0 (-1074) := by
    cases sign
    · exact ⟨true, by decide⟩
    · exact ⟨false, by decide⟩
  obtain ⟨negative, hview⟩ := hview
  simp [value, hview, View.value]

theorem isFinite_pack_zero (sign : Sign) : (Float.ofModel (.pack (.zero sign))).isFinite = true := by
  cases sign <;> decide

/-- What has too large an exponent becomes an infinity. -/
theorem view_pack_large (sign : Sign) {m : Nat} {e : ℤ} (hm : 0 < m) (he : 971 < e) :
    view (.ofModel (.pack (.finite sign m e hm))) = .infinite (sign == .negative) := by
  have hpack : UnpackedFloat.pack Format.binary64 (.finite sign m e hm) =
      UnpackedFloat.pack Format.binary64 (.infinity sign) := by
    unfold UnpackedFloat.pack
    simp only [Format.exponentBias]
    exact if_pos (show 2048 ≤ (e + (1023 : Nat) + (52 : Nat)).toNat + 1 by omega)
  rw [view_eq]
  change View.ofUnpacked (unpack Format.binary64
    (UnpackedFloat.pack Format.binary64 (.finite sign m e hm))) = _
  rw [hpack]
  change View.ofUnpacked (Float.ofModel (.pack (.infinity sign))).toModel.unpack = _
  rw [← view_eq]
  cases sign <;> decide

/-- A number with a sign. -/
def signed (sign : Sign) (q : ℚ) : ℚ :=
  if sign == .negative then -q else q

theorem signed_positive (q : ℚ) : signed .positive q = q :=
  rfl

theorem signed_zero (sign : Sign) : signed sign 0 = 0 := by
  cases sign <;> simp [signed]

theorem nearest_signed (sign : Sign) (q : ℚ) : nearest (signed sign q) = signed sign (nearest q) := by
  cases sign
  · exact nearest_neg q
  · rfl

theorem abs_signed (sign : Sign) {q : ℚ} (h : 0 ≤ q) : |signed sign q| = q := by
  cases sign
  · exact (abs_neg q).trans (abs_of_nonneg h)
  · exact abs_of_nonneg h

theorem signed_lt_zero_iff (sign : Sign) {q : ℚ} (h : 0 < q) :
    signed sign q < 0 ↔ sign == .negative := by
  cases sign
  · exact iff_of_true (neg_neg_of_pos h) rfl
  · exact iff_of_false h.not_gt (by decide)

/-- A form of a rounded number is below 2 ^ 1024 exactly if its exponent is that of a double. -/
theorem Normal.lt_iff {m : Nat} {e : ℤ} (h : Normal m e) :
    (m : ℚ) * 2 ^ e < 2 ^ 1024 ↔ e ≤ 971 := by
  constructor
  · intro hlt
    by_contra hlarge
    have hfull : (2 : ℚ) ^ 52 ≤ m := by exact_mod_cast h.full.resolve_right (by omega)
    refine absurd hlt (not_lt.mpr ?_)
    calc (2 : ℚ) ^ 1024 = 2 ^ 52 * 2 ^ (972 : ℤ) := (pow_mul_zpow 52 972).symm
      _ ≤ m * 2 ^ e := mul_le_mul hfull (zpow_le_zpow_right₀ (by norm_num) (by omega))
        (two_zpow_pos _).le (Nat.cast_nonneg m)
  · intro he
    have hbelow : (m : ℚ) < 2 ^ 53 := by exact_mod_cast h.below
    calc (m : ℚ) * 2 ^ e ≤ m * 2 ^ (971 : ℤ) := mul_le_mul_of_nonneg_left
          (zpow_le_zpow_right₀ (by norm_num) he) (Nat.cast_nonneg m)
      _ < 2 ^ 53 * 2 ^ (971 : ℤ) := mul_lt_mul_of_pos_right hbelow (two_zpow_pos _)
      _ = 2 ^ 1024 := pow_mul_zpow 53 971

theorem becomes_zero (sign : Sign) {q : ℚ} (h : nearest q = 0) : Becomes (.zero sign) q where
  finite _ := ⟨isFinite_pack_zero sign, (value_pack_zero sign).trans h.symm⟩
  infinite hlarge := by
    rw [h, abs_zero] at hlarge
    exact absurd hlarge (not_le.mpr (by positivity))

theorem becomes_canonical (sign : Sign) {m : Nat} {e : ℤ} (hm : 0 < m) (h : Canonical m e) {q : ℚ}
    (hq : nearest q = signed sign (m * 2 ^ e)) : Becomes (.finite sign m e hm) q := by
  have hview := view_pack sign hm h
  have hlt := h.normal.lt_iff.mpr h.highest
  refine ⟨fun _ => ⟨(isFinite_iff _).mpr ⟨_, _, _, hview⟩, ?_⟩, fun hlarge => ?_⟩
  · rw [value, hview, hq]
    rfl
  · rw [hq, abs_signed sign (by positivity)] at hlarge
    exact absurd hlt (not_lt.mpr hlarge)

theorem Rounds.becomes {sign : Sign} {q : ℚ} {u : UnpackedFloat} (h : Rounds sign q u)
    (hq : 0 ≤ q) : Becomes u (signed sign q) := by
  have hnearest : nearest (signed sign q) = signed sign (nearestAbove q) := by
    rw [nearest_signed, nearest_of_nonneg hq]
  cases h with
  | zero hvalue => exact becomes_zero sign (by simp [hnearest, hvalue, signed_zero])
  | @finite m e hm hvalue hform =>
    rw [← hvalue] at hnearest
    by_cases he : e ≤ 971
    · exact becomes_canonical sign hm (hform.canonical he) hnearest
    · have hpos : 0 < q := by
        refine hq.lt_of_ne fun hzero => ?_
        rw [← hzero, nearestAbove_zero] at hvalue
        exact absurd hvalue (mul_pos (by exact_mod_cast hm) (two_zpow_pos e)).ne'
      refine ⟨fun hsmall => ?_, fun _ => ?_⟩
      · rw [hnearest, abs_signed sign (by positivity), hform.lt_iff] at hsmall
        exact absurd hsmall he
      · rw [view_pack_large sign hm (by omega)]
        simp only [signed_lt_zero_iff sign hpos, Bool.decide_coe]

/-- What is packed as it was unpacked is what it was. -/
theorem becomes_of_rounded {u : UnpackedFloat} (h : Rounded u) (hfinite : u.isFinite = true) :
    Becomes u (valueOf u) := by
  cases u with
  | notANumber => cases hfinite
  | infinity sign => cases hfinite
  | zero sign => exact becomes_zero sign (by simp [valueOf, View.ofUnpacked, View.value])
  | finite sign m e hm =>
    have hform := h sign m e hm rfl
    have hvalue : valueOf (.finite sign m e hm) = signed sign (m * 2 ^ e) := by
      simp only [valueOf, View.ofUnpacked, View.value, signed]
    refine becomes_canonical sign hm hform ?_
    rw [hvalue, nearest_signed, hform.normal.nearest_eq]

/-! ## Order -/

/-- A canonical form with the lesser exponent is the lesser number. -/
theorem Canonical.lt_of_exponent {m n : Nat} {e k : ℤ} (hm : Canonical m e) (hn : Canonical n k)
    (h : e < k) : (m : ℚ) * 2 ^ e < n * 2 ^ k := by
  have hfull : 2 ^ 52 ≤ n := by
    have := hm.lowest
    exact hn.full.resolve_right (by omega)
  calc (m : ℚ) * 2 ^ e < 2 ^ 53 * 2 ^ e :=
        mul_lt_mul_of_pos_right (by exact_mod_cast hm.below) (two_zpow_pos e)
    _ = 2 ^ (53 + e) := pow_mul_zpow 53 e
    _ ≤ 2 ^ (52 + k) := zpow_le_zpow_right₀ (by norm_num) (by omega)
    _ = 2 ^ 52 * 2 ^ k := (pow_mul_zpow 52 k).symm
    _ ≤ n * 2 ^ k := mul_le_mul_of_nonneg_right (by exact_mod_cast hfull) (two_zpow_pos k).le

/-- Canonical forms are compared as their values are. -/
theorem Canonical.compare_eq {m n : Nat} {e k : ℤ} (hm : Canonical m e) (hn : Canonical n k) :
    (compare e k).then (compare m n) = compare ((m : ℚ) * 2 ^ e) (n * 2 ^ k) := by
  rcases lt_trichotomy e k with h | rfl | h
  · rw [compare_lt_iff_lt.mpr h, compare_lt_iff_lt.mpr (hm.lt_of_exponent hn h)]
    rfl
  · have hscale : compare ((m : ℚ) * 2 ^ e) (n * 2 ^ e) = compare m n := by
      rcases h : compare m n with _ | _ | _
      · rw [compare_lt_iff_lt] at h ⊢
        exact mul_lt_mul_of_pos_right (by exact_mod_cast h) (two_zpow_pos e)
      · rw [compare_eq_iff_eq] at h ⊢
        rw [h]
      · rw [compare_gt_iff_gt] at h ⊢
        exact mul_lt_mul_of_pos_right (by exact_mod_cast h) (two_zpow_pos e)
    rw [hscale, compare_eq_iff_eq.mpr rfl]
    rfl
  · rw [compare_gt_iff_gt.mpr h, compare_gt_iff_gt.mpr (hn.lt_of_exponent hm h)]
    rfl

theorem finite_cases {u : UnpackedFloat} (h : u.isFinite = true) :
    (∃ sign, u = .zero sign) ∨ ∃ sign m e hm, u = .finite sign m e hm := by
  cases u with
  | notANumber => cases h
  | infinity sign => cases h
  | zero sign => exact .inl ⟨sign, rfl⟩
  | finite sign m e hm => exact .inr ⟨sign, m, e, hm, rfl⟩

theorem compare_neg (p q : ℚ) : compare (-p) (-q) = (compare p q).swap := by
  rcases lt_trichotomy p q with h | rfl | h
  · rw [compare_gt_iff_gt.mpr (neg_lt_neg h), compare_lt_iff_lt.mpr h]
    rfl
  · rw [compare_eq_iff_eq.mpr rfl, compare_eq_iff_eq.mpr rfl]
    rfl
  · rw [compare_lt_iff_lt.mpr (neg_lt_neg h), compare_gt_iff_gt.mpr h]
    rfl

/-- Finite numbers are compared by their values. -/
theorem compare_eq_valueOf {u v : UnpackedFloat} (hu : Rounded u) (hv : Rounded v)
    (hfinite : u.isFinite = true) (hfinite' : v.isFinite = true) :
    u.compare v = some (compare (valueOf u) (valueOf v)) := by
  have hpos {m : Nat} (e : ℤ) (hm : 0 < m) : (0 : ℚ) < m * 2 ^ e :=
    mul_pos (by exact_mod_cast hm) (two_zpow_pos e)
  obtain ⟨s, rfl⟩ | ⟨s, m, e, hm, rfl⟩ := finite_cases hfinite <;>
    obtain ⟨t, rfl⟩ | ⟨t, n, k, hn, rfl⟩ := finite_cases hfinite'
  · simp [UnpackedFloat.compare, valueOf, View.ofUnpacked, View.value]
  · have hvalue := hpos k hn
    cases t
    · have hgt : compare (0 : ℚ) (-(n * 2 ^ k)) = .gt := compare_gt_iff_gt.mpr (by linarith)
      simp [UnpackedFloat.compare, valueOf, View.ofUnpacked, View.value, hgt]
    · have hlt : compare (0 : ℚ) (n * 2 ^ k) = .lt := compare_lt_iff_lt.mpr hvalue
      simp [UnpackedFloat.compare, valueOf, View.ofUnpacked, View.value, hlt]
  · have hvalue := hpos e hm
    cases s
    · have hlt : compare (-(m * 2 ^ e) : ℚ) 0 = .lt := compare_lt_iff_lt.mpr (by linarith)
      simp [UnpackedFloat.compare, valueOf, View.ofUnpacked, View.value, hlt]
    · have hgt : compare (m * 2 ^ e : ℚ) 0 = .gt := compare_gt_iff_gt.mpr hvalue
      simp [UnpackedFloat.compare, valueOf, View.ofUnpacked, View.value, hgt]
  · have hvalue := hpos e hm
    have hvalue' := hpos k hn
    have hcompare := (hu s m e hm rfl).compare_eq (hv t n k hn rfl)
    have hswap := compare_neg (m * 2 ^ e) (n * 2 ^ k)
    cases s <;> cases t
    · simp [UnpackedFloat.compare, valueOf, View.ofUnpacked, View.value, hcompare, hswap]
    · have hlt : compare (-(m * 2 ^ e) : ℚ) (n * 2 ^ k) = .lt :=
        compare_lt_iff_lt.mpr (by linarith)
      simp [UnpackedFloat.compare, valueOf, View.ofUnpacked, View.value, hlt]
    · have hgt : compare (m * 2 ^ e : ℚ) (-(n * 2 ^ k)) = .gt :=
        compare_gt_iff_gt.mpr (by linarith)
      simp [UnpackedFloat.compare, valueOf, View.ofUnpacked, View.value, hgt]
    · simp [UnpackedFloat.compare, valueOf, View.ofUnpacked, View.value, hcompare]

section Comparison

variable {x y : Float}

theorem compare_eq_value (hx : x.isFinite = true) (hy : y.isFinite = true) :
    x.toModel.unpack.compare y.toModel.unpack = some (compare (value x) (value y)) := by
  rw [value_eq_valueOf, value_eq_valueOf]
  exact compare_eq_valueOf (rounded_unpack x) (rounded_unpack y) hx hy

theorem lt_iff_value (hx : x.isFinite = true) (hy : y.isFinite = true) :
    x < y ↔ value x < value y := by
  change decide (x.toModel.unpack.lt y.toModel.unpack = true) = true ↔ _
  simp [UnpackedFloat.lt, compare_eq_value hx hy, compare_lt_iff_lt]

theorem le_iff_value (hx : x.isFinite = true) (hy : y.isFinite = true) :
    x ≤ y ↔ value x ≤ value y := by
  change decide (x.toModel.unpack.le y.toModel.unpack = true) = true ↔ _
  simp [UnpackedFloat.le, compare_eq_value hx hy, Ordering.isLE_iff_ne_gt, compare_le_iff_le]

theorem beq_iff_value (hx : x.isFinite = true) (hy : y.isFinite = true) :
    (x == y) = true ↔ value x = value y := by
  change (x.toModel.unpack.compare y.toModel.unpack == some .eq) = true ↔ _
  simp [compare_eq_value hx hy]

end Comparison

/-! ## Whole parts -/

theorem value_of_view {x : Float} {negative : Bool} {m : Nat} {e : ℤ}
    (h : view x = .finite negative m e) :
    value x = if negative then -((m : ℚ) * 2 ^ e) else (m : ℚ) * 2 ^ e := by
  rw [value, h, View.value]

theorem zpow_eq_div {k : Nat} {e : ℤ} (h : -e = k) (m : Nat) :
    (m : ℚ) * 2 ^ e = m / 2 ^ k := by
  rw [show e = -(k : ℤ) by omega, zpow_neg, zpow_natCast]
  rfl

/-- What a mantissa and an exponent stand for without the fraction is the whole part. -/
theorem magnitude_eq_floor (m : Nat) (e : ℤ) : (magnitude m e : ℤ) = ⌊(m : ℚ) * 2 ^ e⌋ := by
  unfold magnitude
  split
  · rename_i he
    obtain ⟨k, rfl⟩ := Int.eq_ofNat_of_zero_le he
    have hwhole : (m : ℚ) * 2 ^ (k : ℤ) = ((m * 2 ^ k : ℕ) : ℤ) := by
      push_cast
      rw [zpow_natCast]
    rw [hwhole, Int.floor_intCast]
    rfl
  · rename_i he
    obtain ⟨k, hk⟩ := Int.eq_ofNat_of_zero_le (show 0 ≤ -e by omega)
    have hquotient := Rat.floor_natCast_div_natCast m (2 ^ k)
    rw [zpow_eq_div hk, hk]
    push_cast at hquotient
    exact_mod_cast hquotient.symm

/-- A number is whole exactly if it is its whole part. -/
theorem whole_iff (m : Nat) (e : ℤ) : Whole m e ↔ (magnitude m e : ℚ) = m * 2 ^ e := by
  by_cases he : 0 ≤ e
  · obtain ⟨k, rfl⟩ := Int.eq_ofNat_of_zero_le he
    simp [Whole, magnitude]
  · obtain ⟨k, hk⟩ := Int.eq_ofNat_of_zero_le (show 0 ≤ -e by omega)
    have hpow : (2 : ℚ) ^ k ≠ 0 := by positivity
    rw [zpow_eq_div hk, eq_div_iff hpow]
    constructor
    · intro hwhole
      have hmantissa := hwhole.mantissa_eq (by omega)
      rw [hk] at hmantissa
      exact_mod_cast hmantissa.symm
    · intro heq
      have heq : magnitude m e * 2 ^ k = m := by exact_mod_cast heq
      refine .inr ?_
      rw [← heq, hk]
      exact Nat.mul_mod_left _ _

/-- An integer and a double are the same number exactly if the double stands for the integer. -/
theorem equalsInt_iff_value {x : Float} {n : ℤ} :
    equalsInt x n = true ↔ x.isFinite = true ∧ value x = n := by
  by_cases hfinite : x.isFinite = true
  · obtain ⟨negative, m, e, hview⟩ := (isFinite_iff x).mp hfinite
    have hsigned : ((if negative then -(magnitude m e : ℤ) else magnitude m e : ℤ) : ℚ) =
        if negative then -(magnitude m e : ℚ) else magnitude m e := by
      cases negative <;> simp
    rw [equalsInt_of_view hview, value_of_view hview, whole_iff, and_iff_right hfinite]
    constructor
    · rintro ⟨hwhole, rfl⟩
      rw [hsigned, hwhole]
    · intro hvalue
      have hwhole : (magnitude m e : ℚ) = m * 2 ^ e := by
        have hint : (m : ℚ) * 2 ^ e = ((if negative then -n else n : ℤ) : ℚ) := by
          cases negative
          · exact hvalue
          · rw [if_pos rfl] at hvalue
            rw [if_pos rfl, Int.cast_neg, ← hvalue, neg_neg]
        have hfloor := magnitude_eq_floor m e
        rw [hint, Int.floor_intCast] at hfloor
        rw [hint, ← hfloor, Int.cast_natCast]
      rw [← hwhole, ← hsigned] at hvalue
      exact ⟨hwhole, by exact_mod_cast hvalue⟩
  · refine iff_of_false ?_ fun h => hfinite h.1
    cases hview : view x with
    | finite negative m e => exact absurd ((isFinite_iff x).mpr ⟨_, _, _, hview⟩) hfinite
    | _ => simp [equalsInt, isWhole, hview]

/-- Doubles that are equal are finite alike and stand for one number. -/
theorem value_eq_of_beq {x y : Float} (h : (x == y) = true) :
    x.isFinite = y.isFinite ∧ value x = value y := by
  have hfinite : x.isFinite = y.isFinite := by
    rw [beq_eq] at h
    rw [Bool.eq_iff_iff, isFinite_iff, isFinite_iff]
    cases hx : view x <;> cases hy : view y <;> simp_all [View.same]
  refine ⟨hfinite, ?_⟩
  by_cases hx : x.isFinite = true
  · exact (beq_iff_value hx (hfinite ▸ hx)).mp h
  · have hzero {z : Float} (hz : ¬z.isFinite = true) : value z = 0 := by
      rw [value]
      cases hview : view z with
      | finite negative m e => exact absurd ((isFinite_iff z).mpr ⟨_, _, _, hview⟩) hz
      | _ => rfl
    rw [hzero hx, hzero (hfinite ▸ hx)]

/-- Equal doubles equal the same integers. -/
theorem equalsInt_congr {x y : Float} (h : (x == y) = true) (n : ℤ) :
    equalsInt x n = equalsInt y n := by
  obtain ⟨hfinite, hvalue⟩ := value_eq_of_beq h
  rw [Bool.eq_iff_iff, equalsInt_iff_value, equalsInt_iff_value, hfinite, hvalue]

theorem value_zero : value 0 = 0 := by
  have hview : view 0 = .finite false 0 (-1074) := by decide
  simp [value, hview, View.value]

/-- The whole part of a double is that of its value. -/
theorem floor?_eq {x : Float} (hx : x.isFinite = true) : floor? x = some ⌊value x⌋ := by
  obtain ⟨negative, m, e, hview⟩ := (isFinite_iff x).mp hx
  have hfloor := magnitude_eq_floor m e
  have hwhole : isWhole x = true ↔ Whole m e := by simp [isWhole_of_view hview, Whole]
  have hsign : (0 : Float) ≤ x ↔ 0 ≤ value x := by
    rw [le_iff_value (by decide) hx, value_zero]
  have hnonneg : (0 : ℚ) ≤ m * 2 ^ e := mul_nonneg (Nat.cast_nonneg m) (two_zpow_pos e).le
  have hcondition : (isWhole x || decide (0 ≤ x)) = true ↔ Whole m e ∨ 0 ≤ value x := by
    rw [Bool.or_eq_true, hwhole, decide_eq_true_iff, hsign]
  have hlow := Int.floor_le ((m : ℚ) * 2 ^ e)
  have hhigh := Int.lt_floor_add_one ((m : ℚ) * 2 ^ e)
  rw [← hfloor, Int.cast_natCast] at hlow hhigh
  rw [floor?, truncate?_of_view hview, Option.map_some, Option.some.injEq]
  rw [value_of_view hview] at hcondition ⊢
  cases negative with
  | false => rw [if_pos (hcondition.mpr (.inr hnonneg))]; exact hfloor
  | true =>
    simp only [if_true] at hcondition ⊢
    rw [eq_comm, Int.floor_eq_iff]
    by_cases hexact : (magnitude m e : ℚ) = m * 2 ^ e
    · rw [if_pos (hcondition.mpr (.inl ((whole_iff m e).mpr hexact)))]
      push_cast
      constructor <;> linarith
    · have hlt := lt_of_le_of_ne hlow hexact
      have hpositive : (0 : ℚ) ≤ magnitude m e := Nat.cast_nonneg _
      rw [if_neg]
      · push_cast
        constructor <;> linarith
      · rw [hcondition, whole_iff]
        rintro (hwhole | hzero)
        · exact hexact hwhole
        · linarith

end Canvasflow.Double
