import Canvasflow.Number.Shortest
import Canvasflow.Proofs.Number.Decimals

/-!
# The shortest decimal reads back

Whatever decimal lies in the neighbourhood of a double is rounded to it (`nearest_of_contains`). A
grid of 17 digits is so fine that one of its points next to the double lies there (`hit?_isSome`),
so that the search for a shortest decimal ends with one that reads back (`nearest_shortest`).
-/

namespace Canvasflow.Double

variable {m d : Nat} {e k : ℤ}

/-! ## Comparing -/

theorem pow_toNat_eq {K : ℚ} (hK : K ≠ 0) (e : ℤ) : K ^ e.toNat = K ^ e * K ^ (-e).toNat := by
  rw [← zpow_natCast, ← zpow_natCast, ← zpow_add₀ hK]
  congr 1
  omega

/-- Binary and decimal numbers are brought to whole numbers by one factor. -/
theorem cast_binary (a : Nat) (e k : ℤ) :
    ((a * Nat.pow 2 e.toNat * Nat.pow 10 (-k).toNat : ℕ) : ℚ) =
      a * 2 ^ e * (10 ^ (-k).toNat * 2 ^ (-e).toNat) := by
  simp only [Nat.pow_eq]
  push_cast
  rw [pow_toNat_eq two_ne_zero e]
  ring

theorem cast_decimal (d : Nat) (e k : ℤ) :
    ((d * Nat.pow 10 k.toNat * Nat.pow 2 (-e).toNat : ℕ) : ℚ) =
      d * 10 ^ k * (10 ^ (-k).toNat * 2 ^ (-e).toNat) := by
  simp only [Nat.pow_eq]
  push_cast
  rw [pow_toNat_eq (by norm_num) k]
  ring

theorem scale_pos (e k : ℤ) : (0 : ℚ) < 10 ^ (-k).toNat * 2 ^ (-e).toNat := by
  positivity

/-- Binary and decimal numbers are compared exactly. -/
theorem compareScaled_eq (a : Nat) (e : ℤ) (d : Nat) (k : ℤ) :
    compareScaled a e d k = compare ((a : ℚ) * 2 ^ e) (d * 10 ^ k) := by
  have hlt {p q : Nat} {r s : ℚ} (hp : (p : ℚ) = r * (10 ^ (-k).toNat * 2 ^ (-e).toNat))
      (hq : (q : ℚ) = s * (10 ^ (-k).toNat * 2 ^ (-e).toNat)) : p < q ↔ r < s := by
    rw [← Nat.cast_lt (α := ℚ), hp, hq, mul_lt_mul_iff_left₀ (scale_pos e k)]
  have hless := hlt (cast_binary a e k) (cast_decimal d e k)
  have hgreater := hlt (cast_decimal d e k) (cast_binary a e k)
  unfold compareScaled
  rcases lt_trichotomy ((a : ℚ) * 2 ^ e) (d * 10 ^ k) with h | h | h
  · rw [compare_lt_iff_lt.mpr h, compare_lt_iff_lt.mpr (hless.mpr h)]
  · rw [compare_eq_iff_eq.mpr h, compare_eq_iff_eq]
    have := hless.not.mpr h.not_lt
    have := hgreater.not.mpr h.not_gt
    omega
  · rw [compare_gt_iff_gt.mpr h, compare_gt_iff_gt.mpr (hgreater.mpr h)]

/-- A quotient of such whole numbers is the point of the grid below the number. -/
theorem scaled_div_bounds {a d : Nat} {e k : ℤ}
    (h : d = a * Nat.pow 2 e.toNat * Nat.pow 10 (-k).toNat /
      (Nat.pow 10 k.toNat * Nat.pow 2 (-e).toNat)) :
    (d : ℚ) * 10 ^ k ≤ a * 2 ^ e ∧ a * 2 ^ e < ((d + 1 : ℕ) : ℚ) * 10 ^ k := by
  have hdivisor : 0 < Nat.pow 10 k.toNat * Nat.pow 2 (-e).toNat :=
    Nat.mul_pos (Nat.pow_pos (by decide)) (Nat.pow_pos (by decide))
  constructor
  · have hle := Nat.div_mul_le_self (a * Nat.pow 2 e.toNat * Nat.pow 10 (-k).toNat)
      (Nat.pow 10 k.toNat * Nat.pow 2 (-e).toNat)
    rw [← h, ← mul_assoc, ← Nat.cast_le (α := ℚ), cast_binary, cast_decimal] at hle
    exact le_of_mul_le_mul_right hle (scale_pos e k)
  · have hlt := Nat.lt_div_mul_add hdivisor (a := a * Nat.pow 2 e.toNat * Nat.pow 10 (-k).toNat)
    rw [← h, ← Nat.succ_mul, ← mul_assoc, ← Nat.cast_lt (α := ℚ), cast_binary, cast_decimal] at hlt
    exact lt_of_mul_lt_mul_right hlt (scale_pos e k).le

/-! ## Neighbourhoods -/

/-- A decimal lies in the interval inside the ends or, if the interval is closed, at an end. -/
theorem Neighbourhood.contains_iff (box : Neighbourhood) (d : Nat) (k : ℤ) :
    box.contains d k = true ↔
      ((box.low : ℚ) * 2 ^ box.exponent < d * 10 ^ k ∨
        box.closed = true ∧ (box.low : ℚ) * 2 ^ box.exponent = d * 10 ^ k) ∧
      ((d : ℚ) * 10 ^ k < box.high * 2 ^ box.exponent ∨
        box.closed = true ∧ (box.high : ℚ) * 2 ^ box.exponent = d * 10 ^ k) := by
  simp only [Neighbourhood.contains, compareScaled_eq, Bool.and_eq_true, Bool.or_eq_true,
    beq_iff_eq, compare_lt_iff_lt, compare_eq_iff_eq, compare_gt_iff_gt]

/-- The lower end of the interval, in quarters of the last place. -/
theorem neighbourhood_low (hm : 0 < m) (e : ℤ) :
    ((neighbourhood m e).low : ℚ) = 4 * m - if m = 2 ^ 52 ∧ -1074 < e then 1 else 2 := by
  simp only [neighbourhood, Nat.pow_eq]
  split
  · rw [Nat.cast_sub (by omega)]
    norm_num
  · rw [Nat.cast_sub (by omega)]
    norm_num

theorem neighbourhood_high (m : Nat) (e : ℤ) : ((neighbourhood m e).high : ℚ) = 4 * m + 2 := by
  simp [neighbourhood]

theorem two_zpow_quarter (e : ℤ) : (2 : ℚ) ^ e = 4 * 2 ^ (e - 2) := by
  rw [show (4 : ℚ) = 2 ^ (2 : ℤ) by norm_num, ← zpow_add₀ two_ne_zero]
  congr 1
  omega

/-- What lies in the interval around a double is rounded to it. -/
theorem nearest_of_contains (h : Canonical m e) (hm : 0 < m)
    (hcontains : (neighbourhood m e).contains d k = true) :
    nearest (d * 10 ^ k) = m * 2 ^ e := by
  have hunit := two_zpow_pos (e - 2)
  obtain ⟨hlow, hhigh⟩ := (Neighbourhood.contains_iff _ d k).mp hcontains
  rw [neighbourhood_low hm] at hlow
  rw [neighbourhood_high] at hhigh
  simp only [neighbourhood, beq_iff_eq] at hlow hhigh
  have hle := hlow.elim le_of_lt fun hend => hend.2.le
  refine h.normal.nearest_of_near hm ?_ (fun hpower hplace => ?_) ?_ ?_
  all_goals rw [two_zpow_quarter]
  · split at hle <;> linarith
  · have hlowest := h.lowest
    rw [if_pos ⟨hpower, by omega⟩] at hle
    linarith
  · rcases hhigh with hless | ⟨-, hend⟩ <;> linarith
  · rcases hlow with hlow | ⟨heven, -⟩
    · rcases hhigh with hhigh | ⟨heven, -⟩
      · refine .inr ⟨?_, by linarith⟩
        split at hlow <;> linarith
      · exact .inl heven
    · exact .inl heven

/-! ## The grid with 17 digits -/

/-- The place of the first digit is found, if not a lower one. -/
theorem ten_zpow_decimalPlace_le (h : Canonical m e) (hm : 0 < m) :
    (10 : ℚ) ^ decimalPlace m e ≤ m * 2 ^ e := by
  have hlog : m.log2 < 53 := (Nat.log2_lt hm.ne').mpr h.below
  have hpower : (2 : ℚ) ^ (m.log2 + e) ≤ m * 2 ^ e := by
    rw [← pow_mul_zpow]
    exact mul_le_mul_of_nonneg_right (by exact_mod_cast Nat.log2_self_le hm.ne') (two_zpow_pos e).le
  have hplace (place : ℤ) (hnot : compareScaled m e 1 place ≠ .lt) :
      (10 : ℚ) ^ place ≤ m * 2 ^ e := by
    rw [compareScaled_eq, ne_eq, compare_lt_iff_lt, not_lt] at hnot
    simpa using hnot
  have hlowest := h.lowest
  have hhighest := h.highest
  unfold decimalPlace
  dsimp only
  split
  · exact hplace _ (bne_iff_ne.mp ‹(_ != _) = true›)
  · split
    · exact (ten_zpow_le_two_zpow (by omega) (by omega)).trans hpower
    · exact hplace _ (mt beq_iff_eq.mpr ‹¬(_ == _) = true›)

theorem middle_eq (m : Nat) (e : ℤ) :
    ((neighbourhood m e).middle : ℚ) * 2 ^ (neighbourhood m e).exponent = m * 2 ^ e := by
  simp only [neighbourhood]
  rw [two_zpow_quarter e]
  push_cast
  ring

/-- On a grid the points next to the double are tried. -/
theorem hit?_eq (m : Nat) (e k : ℤ) : ∃ d : Nat, (d : ℚ) * 10 ^ k ≤ m * 2 ^ e ∧
    m * 2 ^ e < ((d + 1 : ℕ) : ℚ) * 10 ^ k ∧
    (neighbourhood m e).hit? k =
      match (neighbourhood m e).contains d k && d != 0, (neighbourhood m e).contains (d + 1) k with
      | true, true => some (if (neighbourhood m e).prefersLower d k then d else d + 1)
      | true, false => some d
      | false, true => some (d + 1)
      | false, false => none := by
  have hbounds := scaled_div_bounds (a := (neighbourhood m e).middle)
    (e := (neighbourhood m e).exponent) (k := k) rfl
  rw [middle_eq] at hbounds
  exact ⟨_, hbounds.1, hbounds.2, rfl⟩

/-- What is hit lies in the neighbourhood. -/
theorem contains_of_hit? (h : (neighbourhood m e).hit? k = some d) :
    (neighbourhood m e).contains d k = true := by
  obtain ⟨below, -, -, hhit⟩ := hit?_eq m e k
  rw [hhit] at h
  split at h
  · split at h <;> grind
  · grind
  · grind
  · cases h

/-- On the grid with 17 digits a point next to a double lies in its neighbourhood. -/
theorem hit?_isSome (h : Canonical m e) (hm : 0 < m) (hk : (10 : ℚ) ^ (k + 16) ≤ m * 2 ^ e) :
    ((neighbourhood m e).hit? k).isSome = true := by
  obtain ⟨d, hlow, hhigh, hhit⟩ := hit?_eq m e k
  have hstep := ten_zpow_pos k
  have hunit := two_zpow_pos (e - 2)
  have hbelow : (m : ℚ) < 2 ^ 53 := by exact_mod_cast h.below
  rw [zpow_add₀ (by norm_num), mul_comm] at hk
  norm_num at hk
  have hpositive : d ≠ 0 := by
    rintro rfl
    norm_num at hhigh
    linarith
  have hnear : (neighbourhood m e).contains d k = true ∨
      (neighbourhood m e).contains (d + 1) k = true := by
    rw [Neighbourhood.contains_iff, Neighbourhood.contains_iff, neighbourhood_low hm,
      neighbourhood_high]
    simp only [neighbourhood]
    rw [two_zpow_quarter] at hlow hhigh hk
    generalize (2 : ℚ) ^ (e - 2) = unit at *
    generalize (10 : ℚ) ^ k = step at *
    push_cast at hhigh ⊢
    have hfine : m * unit < 2 ^ 53 * unit := mul_lt_mul_of_pos_right hbelow hunit
    by_cases hnext : ((d : ℚ) + 1) * step < (4 * m + 2) * unit
    · refine .inr ⟨.inl ?_, .inl hnext⟩
      split <;> linarith
    · refine .inl ⟨.inl ?_, .inl (by linarith)⟩
      split
      · -- above a power of two the steps are so short that the next point is near
        have hpower : (m : ℚ) = 2 ^ 52 := by exact_mod_cast And.left ‹_›
        rw [hpower] at *
        linarith
      · linarith
  rw [hhit]
  rcases hnear with hcontains | hcontains
  · have hfirst : ((neighbourhood m e).contains d k && d != 0) = true := by
      simp [hcontains, hpositive]
    cases hsecond : (neighbourhood m e).contains (d + 1) k <;> simp [hfirst]
  · cases hfirst : ((neighbourhood m e).contains d k && d != 0) <;> simp [hcontains]

/-! ## The search -/

/-- The number that a decimal stands for. -/
def Decimal.value (decimal : Decimal) : ℚ :=
  decimal.digits * 10 ^ decimal.exponent

/-- Final zeros of the digits are moved into the exponent, and the number stays. -/
theorem Decimal.value_stripZeros (steps : Nat) (decimal : Decimal) :
    (decimal.stripZeros steps).value = decimal.value := by
  induction steps generalizing decimal with
  | zero => rfl
  | succ steps ih =>
    rw [Decimal.stripZeros]
    split
    · have hdigits : (decimal.digits : ℚ) = (decimal.digits / 10 : ℕ) * 10 := by
        exact_mod_cast (Nat.div_mul_cancel (Nat.dvd_of_mod_eq_zero ‹_›)).symm
      rw [ih, Decimal.value, Decimal.value, zpow_add₀ (by norm_num), zpow_one, hdigits]
      ring
    · rfl

/-- The shortest decimal of a double is rounded to it. -/
theorem nearest_shortest (h : Canonical m e) (hm : 0 < m) :
    nearest (shortest m e).value = m * 2 ^ e := by
  have hsome : ((List.range 17).findSome? fun (count : Nat) =>
      let k := decimalPlace m e - (count : ℤ)
      ((neighbourhood m e).hit? k).map fun d => (⟨d, k⟩ : Decimal)).isSome = true := by
    refine List.findSome?_isSome_iff.mpr ⟨16, by simp, ?_⟩
    rw [Option.isSome_map]
    refine hit?_isSome h hm ?_
    rw [Nat.cast_ofNat, sub_add_cancel]
    exact ten_zpow_decimalPlace_le h hm
  obtain ⟨found, hfound⟩ := Option.isSome_iff_exists.mp hsome
  obtain ⟨count, -, hhit⟩ := List.exists_of_findSome?_eq_some hfound
  obtain ⟨d, hd, rfl⟩ := Option.map_eq_some_iff.mp hhit
  have hshortest : (shortest m e).value =
      Decimal.value ⟨d, decimalPlace m e - (count : ℤ)⟩ := by
    rw [shortest, Decimal.value_stripZeros, hfound, Option.getD_some]
  rw [hshortest]
  exact nearest_of_contains h hm (contains_of_hit? hd)

end Canvasflow.Double
