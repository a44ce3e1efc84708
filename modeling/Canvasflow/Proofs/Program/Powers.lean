import Canvasflow.Program.Native
import Canvasflow.Proofs.Number.Special

/-!
# The two powers

Programs have two powers, the operator `**` and the function `Math.pow`. Both call the power
function of the platform, and each treats undefined powers and overflow in its own way. What the
platform computes is a parameter here, of which only the special cases of its documentation are used
(`PlatformPower`). The two powers are the same double except in four cases, in each of which they
differ (`PowersDiffer`).
-/

namespace Canvasflow

namespace Program

/-- What the documentation of the platform says of its power function at a base that is one or zero,
and at a negative base with an exponent that is not whole. -/
structure PlatformPower (pow : Float → Float → Float) : Prop where
  unit : ∀ a b, a.abs == 1.0 → b.isInf → (pow a b).isNaN = false
  pole : ∀ a b, a == 0.0 → b < 0.0 → b.isFinite → (pow a b).isInf
  poleAtInfinity : ∀ a b, a == 0.0 → b < 0.0 → b.isInf → pow a b = Double.infinity
  zero : ∀ a b, a == 0.0 → ¬ b < 0.0 → (pow a b).isInf = false
  undefined : ∀ a b, a < 0.0 → a.isFinite → b.isFinite → Double.isWhole b = false →
    pow a b = Double.notANumber

/-- The operands at which the two powers are different doubles. -/
inductive PowersDiffer (pow : Float → Float → Float) (a b : Float) : Prop
  /-- `**` gives no number where `Math.pow` gives one. -/
  | unit (hbase : a.abs == 1.0) (hexponent : b.isInf)
  /-- `**` gives infinity where `Math.pow` gives no number. -/
  | pole (hbase : a == 0.0) (hexponent : b < 0.0) (hfinite : b.isFinite)
  /-- `**` gives the negative infinity where `Math.pow` gives the positive one. -/
  | odd (hbase : a < 0.0) (hfinite : a.isFinite) (hexponent : isOdd b) (hlarge : (pow a b).isInf)
  /-- `**` gives infinity where `Math.pow` gives no number. -/
  | root (hbase : a < 0.0) (hfinite : a.isFinite) (hexponent : b.isFinite)
    (hwhole : Double.isWhole b = false) (hlarge : (pow a.abs b).isInf)

variable {pow : Float → Float → Float} {a b : Float}

theorem not_neg_of_zero (h : a == 0.0) : ¬ a < 0.0 := by
  rcases Double.eq_of_beq_zero h with rfl | rfl <;> decide

theorem not_zero_of_neg (h : a < 0.0) : (a == 0.0) = false := by
  rw [Bool.eq_false_iff]
  exact fun hzero => not_neg_of_zero hzero h

theorem not_unit_of_zero (h : a == 0.0) : (a.abs == 1.0) = false := by
  rcases Double.eq_of_beq_zero h with rfl | rfl <;> decide

theorem isFinite_of_zero (h : a == 0.0) : a.isFinite = true := by
  rcases Double.eq_of_beq_zero h with rfl | rfl <;> decide

theorem isFinite_of_isOdd (h : isOdd b) : b.isFinite = true := by
  rw [isOdd, Bool.and_eq_true] at h
  exact Double.isFinite_of_isWhole h.1

theorem isWhole_of_isOdd (h : isOdd b) : Double.isWhole b = true := by
  rw [isOdd, Bool.and_eq_true] at h
  exact h.1

theorem notANumber_ne_infinity : Double.notANumber ≠ Double.infinity := by
  intro h
  have hnan : Double.infinity.isNaN = true := h ▸ (by decide)
  revert hnan
  decide

theorem neg_infinity_ne : -Double.infinity ≠ Double.infinity := by
  intro h
  have hlt : Double.infinity < 0.0 := h ▸ (by decide)
  revert hlt
  decide

/-- Outside the finite operands the function of the platform decides. -/
theorem mathPower_of_not_finite (h : ¬ (a.isFinite ∧ b.isFinite)) :
    mathPower pow a b = pow a b := by
  unfold mathPower
  rw [if_neg]
  rw [Bool.and_eq_true, Bool.and_eq_true]
  exact fun hall => h hall.1

theorem mathPower_of_large (ha : a.isFinite) (hb : b.isFinite) (h : (pow a b).isInf) :
    mathPower pow a b = if a == 0.0 then Double.notANumber else Double.infinity := by
  simp [mathPower, ha, hb, h]

theorem mathPower_of_small (h : (pow a b).isInf = false) : mathPower pow a b = pow a b := by
  simp [mathPower, h]

theorem mathPower_of_undefined (hpow : PlatformPower pow) (ha : a < 0.0) (hfinite : a.isFinite)
    (hb : b.isFinite) (hwhole : Double.isWhole b = false) :
    mathPower pow a b = Double.notANumber := by
  have hvalue := hpow.undefined a b ha hfinite hb hwhole
  rw [mathPower_of_small (by rw [hvalue]; decide), hvalue]

theorem PowersDiffer.ne (hpow : PlatformPower pow) (h : PowersDiffer pow a b) :
    power pow a b ≠ mathPower pow a b := by
  intro heq
  cases h with
  | unit hbase hexponent =>
    have hnan : (mathPower pow a b).isNaN = true := by
      rw [← heq, power, if_pos (by simp [hbase, hexponent])]
      decide
    rw [mathPower_of_not_finite (by simp [Double.isFinite_of_isInf hexponent]),
      hpow.unit a b hbase hexponent] at hnan
    cases hnan
  | pole hbase hexponent hfinite =>
    rw [mathPower_of_large (isFinite_of_zero hbase) hfinite (hpow.pole a b hbase hexponent hfinite),
      if_pos hbase, power, if_neg (by simp [not_unit_of_zero hbase]),
      if_pos (by simp [hbase, hexponent])] at heq
    exact notANumber_ne_infinity heq.symm
  | odd hbase hfinite hexponent hlarge =>
    have hb := isFinite_of_isOdd hexponent
    rw [mathPower_of_large hfinite hb hlarge, not_zero_of_neg hbase, power,
      if_neg (by simp [Double.not_isInf_of_isFinite hb]), if_neg (by simp [not_zero_of_neg hbase]),
      if_neg (by simp [isWhole_of_isOdd hexponent]), if_pos (by simp [hfinite, hb, hlarge]),
      if_pos (by simp [hbase, hexponent])] at heq
    exact neg_infinity_ne heq
  | root hbase hfinite hexponent hwhole hlarge =>
    rw [mathPower_of_undefined hpow hbase hfinite hexponent hwhole, power,
      if_neg (by simp [Double.not_isInf_of_isFinite hexponent]),
      if_neg (by simp [not_zero_of_neg hbase]),
      if_pos (by simp [hbase, hfinite, hexponent, hwhole]), if_pos hlarge] at heq
    exact notANumber_ne_infinity heq.symm

theorem power_eq_mathPower (hpow : PlatformPower pow) (h : ¬ PowersDiffer pow a b) :
    power pow a b = mathPower pow a b := by
  unfold power
  split_ifs with hunit hpole hroot hroot' hlarge hodd <;>
    simp only [Bool.and_eq_true, decide_eq_true_iff, Bool.not_eq_true', Bool.not_eq_true] at *
  · exact absurd (.unit hunit.2 hunit.1) h
  · cases hfinite : b.isFinite with
    | true => exact absurd (.pole hpole.1 hpole.2 hfinite) h
    | false =>
      rw [mathPower_of_not_finite (by simp [hfinite]),
        hpow.poleAtInfinity a b hpole.1 hpole.2 (Double.isInf_of_lt hpole.2 hfinite)]
  · obtain ⟨⟨⟨ha, hfinite⟩, hb⟩, hwhole⟩ := hroot
    exact absurd (.root ha hfinite hb hwhole hroot') h
  · obtain ⟨⟨⟨ha, hfinite⟩, hb⟩, hwhole⟩ := hroot
    exact (mathPower_of_undefined hpow ha hfinite hb hwhole).symm
  · exact absurd (.odd hodd.1 hlarge.1.1 hodd.2 hlarge.2) h
  · obtain ⟨⟨hfinite, hb⟩, hinf⟩ := hlarge
    have hbase : ¬ (a == 0.0) = true := by
      intro hzero
      rw [hpow.zero a b hzero fun hneg => hpole ⟨hzero, hneg⟩] at hinf
      cases hinf
    rw [mathPower_of_large hfinite hb hinf, if_neg hbase]
  · unfold mathPower
    rw [if_neg (by simpa only [Bool.and_eq_true] using hlarge)]

/-- The operator and the function compute the two powers of the doubles of any two numbers, and the
powers are the same double exactly outside four cases. -/
theorem powers_agree_iff (heap : Heap) {a b : Number} {x y : Float} (ha : a.toFloat? = some x)
    (hb : b.toFloat? = some y) :
    (applyBinary heap .pow (.num a) (.num b) = .ok (.double (power Float.pow x y)) ∧
      MathFn.pow.apply [.num a, .num b] = .ok (mathPower Float.pow x y)) ∧
    ∀ pow, PlatformPower pow →
      (power pow x y = mathPower pow x y ↔ ¬ PowersDiffer pow x y) := by
  refine ⟨⟨?_, ?_⟩,
    fun pow hpow => ⟨fun heq hdiffer => hdiffer.ne hpow heq, power_eq_mathPower hpow⟩⟩
  · simp only [applyBinary, compute, Value.numericOperand, Value.toNumber, ha, hb]
    rfl
  · simp only [MathFn.apply, powerOf, mathOperand, Value.numericOperand, Value.toNumber, ha, hb]
    rfl

/-- A power function that only knows which powers are too large, too small or undefined. -/
def coarsePower (a b : Float) : Float :=
  if a == 0.0 then if b < 0.0 then Double.infinity else 0.0
  else if a.abs == 1.0 && b.isInf then 1.0
  else if a < 0.0 && a.isFinite && b.isFinite && !Double.isWhole b then Double.notANumber
  else if a < 0.0 && isOdd b then -Double.infinity
  else Double.infinity

theorem coarsePower_lawful : PlatformPower coarsePower where
  unit a b ha hb := by
    have hbase : (a == 0.0) = false := by
      rw [Bool.eq_false_iff]
      exact fun hzero => absurd ha (by simp [not_unit_of_zero hzero])
    simp only [coarsePower, hbase, ha, hb, Bool.false_eq_true, Bool.and_self, if_true, if_false]
    decide
  pole a b ha hb _ := by
    simp only [coarsePower, ha, hb, if_true]
    decide
  poleAtInfinity a b ha hb _ := by simp only [coarsePower, ha, hb, if_true]
  zero a b ha hb := by
    simp only [coarsePower, ha, hb, if_true, if_false]
    decide
  undefined a b ha hfinite hb hwhole := by
    simp [coarsePower, not_zero_of_neg ha, ha, hfinite, hb, hwhole, Double.not_isInf_of_isFinite hb]

/-- The operator keeps the sign of an odd power of minus ten that is too large, and the function
does not; an even power is the same double. -/
theorem powers_of_minus_ten :
    (Number.toFloat? (.int (-10)) = some (-10.0) ∧ Number.toFloat? (.int 309) = some 309.0 ∧
      Number.toFloat? (.int 400) = some 400.0 ∧ PlatformPower coarsePower) ∧
    power coarsePower (-10.0) 309.0 ≠ mathPower coarsePower (-10.0) 309.0 ∧
    power coarsePower (-10.0) 400.0 = mathPower coarsePower (-10.0) 400.0 := by
  have hten : Number.toFloat? (.int (-10)) = some (-10.0) := by decide
  have hodd : Number.toFloat? (.int 309) = some 309.0 := by decide
  have heven : Number.toFloat? (.int 400) = some 400.0 := by decide
  have hdiffer : PowersDiffer coarsePower (-10.0) 309.0 :=
    .odd (by decide) (by decide) (by decide) (by decide)
  have hagree : ¬ PowersDiffer coarsePower (-10.0) 400.0 := by
    rintro (⟨-, hexponent⟩ | ⟨hbase, -, -⟩ | ⟨-, -, hexponent, -⟩ | ⟨-, -, -, hwhole, -⟩)
    · exact absurd hexponent (by decide)
    · exact absurd hbase (by decide)
    · exact absurd hexponent (by decide)
    · exact absurd hwhole (by decide)
  refine ⟨⟨hten, hodd, heven, coarsePower_lawful⟩, fun heq => ?_, ?_⟩
  · exact ((powers_agree_iff .empty hten hodd).2 _ coarsePower_lawful).mp heq hdiffer
  · exact ((powers_agree_iff .empty hten heven).2 _ coarsePower_lawful).mpr hagree

end Program

end Canvasflow
