import Canvasflow.Proofs.Number.Unpacked
import Canvasflow.Proofs.Program.Scanning

/-!
# Exact numerals

Every double without a sign has a numeral that is read as it. A finite double is a whole number
times a power of ten: all its digits are written, and the exponent puts the point in its place. The
division that reading such a numeral comes down to leaves no rest, so nothing is rounded.
-/

namespace Canvasflow.Double

open Float.Model Float.Model.UnpackedFloat

/-- A number without a sign: neither negative nor the negative zero. -/
def Unsigned (x : Float) : Prop :=
  match view x with
  | .notANumber => False
  | .infinite negative => negative = false
  | .finite negative _ _ => negative = false

/-! ## Doubles from their views -/

/-- The bits of a number. -/
def View.bits : View → Nat
  | .notANumber => 0
  | .infinite negative => negative.toNat * 2 ^ 63 + 2047 * 2 ^ 52
  | .finite negative m e =>
    negative.toNat * 2 ^ 63 + if m < 2 ^ 52 then m else (e + 1075).toNat * 2 ^ 52 + (m - 2 ^ 52)

theorem toBits_of_view {x : Float} (h : view x ≠ .notANumber) : x.toBits.toNat = (view x).bits := by
  have hbits : x.toBits.toNat < 2 ^ 64 := x.toBits.toNat_lt
  have hnegative : (x.toBits.toNat / 2 ^ 63 == 1).toNat = x.toBits.toNat / 2 ^ 63 := by
    have hlt : x.toBits.toNat / 2 ^ 63 < 2 := by omega
    interval_cases x.toBits.toNat / 2 ^ 63 <;> rfl
  unfold view at h ⊢
  simp only [Nat.pow_eq] at h ⊢
  split at h
  · rw [if_pos (by assumption)]
    split at h
    · rw [if_pos (by assumption)]
      simp only [View.bits, hnegative]
      omega
    · exact absurd rfl h
  · rw [if_neg (by assumption)]
    split at h
    · rw [if_pos (by assumption)]
      simp only [View.bits, hnegative]
      rw [if_pos (Nat.mod_lt _ (by decide))]
      omega
    · rw [if_neg (by assumption)]
      simp only [View.bits, hnegative]
      rw [if_neg (by omega)]
      omega

/-- Numbers with one view are one double. -/
theorem eq_of_view {x y : Float} (h : view x = view y) (hx : view x ≠ .notANumber) : x = y := by
  have hbits : x.toBits.toNat = y.toBits.toNat := by
    rw [toBits_of_view hx, toBits_of_view (h ▸ hx), h]
  obtain ⟨⟨bits, hvalid⟩⟩ := x
  obtain ⟨⟨bits', hvalid'⟩⟩ := y
  obtain rfl : bits = bits' := UInt64.toNat_inj.mp hbits
  rfl

/-! ## Divisions without a rest -/

/-- A quotient that has a canonical form is found without a rest, with some bits more. -/
theorem divCore_exact {n m d a b : Nat} (hm : 0 < m) (hd : 0 < d) (h : Canonical m (b - a : Int))
    (hn : n * 2 ^ a = m * d * 2 ^ b) :
    ∃ k : Nat, ∃ t : Int, divCore Format.binary64 n 0 d 0 = (m * 2 ^ k, t, .exact) ∧
      t + k = (b - a : Int) := by
  have hn0 : 0 < n := by
    have : 0 < n * 2 ^ a := hn ▸ by positivity
    exact Nat.pos_of_mul_pos_right this
  have hlog : n.log2 + a ≤ d.log2 + 53 + b := by
    have hlt : m * d < 2 ^ (d.log2 + 54) := by
      have := Nat.mul_lt_mul'' h.below (Nat.lt_log2_self (n := d))
      rwa [← Nat.pow_add, show 53 + (d.log2 + 1) = d.log2 + 54 by omega] at this
    have hmd := (Nat.log2_lt (Nat.mul_pos hm hd).ne').mpr hlt
    rw [← log2_mul_two_pow hn0, hn, log2_mul_two_pow (Nat.mul_pos hm hd)]
    omega
  obtain ⟨t, ht, hcore⟩ : ∃ t : Int, t ≤ 0 ∧ t ≤ (b - a : Int) ∧
      divCore Format.binary64 n 0 d 0 =
        (n <<< (-t).toNat / d, t, accuracyOfFraction (n <<< (-t).toNat % d) d) := by
    refine ⟨min 0 (Format.binary64.targetExponent (totalExponent n 0 - totalExponent d 0)),
      min_le_left _ _, ?_, by simp [divCore]⟩
    have := h.lowest
    simp only [Format.targetExponent, totalExponent, Format.mantissaBits, Format.minExponent]
    omega
  obtain ⟨hle, hcore⟩ := hcore
  obtain ⟨k, hk⟩ : ∃ k : Nat, t + k = (b - a : Int) := ⟨(b - a - t).toNat, by omega⟩
  have hscaled : n <<< (-t).toNat = m * 2 ^ k * d := by
    have hexponents : b + (-t).toNat = k + a := by omega
    refine Nat.eq_of_mul_eq_mul_right (Nat.two_pow_pos a) ?_
    calc n <<< (-t).toNat * 2 ^ a = n * 2 ^ a * 2 ^ (-t).toNat := by rw [Nat.shiftLeft_eq]; ring
      _ = m * d * 2 ^ (b + (-t).toNat) := by rw [hn, Nat.pow_add]; ring
      _ = m * 2 ^ k * d * 2 ^ a := by rw [hexponents, Nat.pow_add]; ring
  refine ⟨k, t, ?_, hk⟩
  rw [hcore, hscaled, Nat.mul_div_cancel _ hd, Nat.mul_mod_left]
  rfl

/-- A canonical form that is written as a fraction over a power of ten is read again. -/
theorem view_ofScientific {n m k a b : Nat} (hm : 0 < m) (hk : 22 < k) (hmax : k ≤ 2 ^ 11)
    (h : Canonical m (b - a : Int)) (hn : n * 2 ^ a = m * 10 ^ k * 2 ^ b) :
    view (Float.ofScientific n true k) = .finite false m (b - a) := by
  have hn0 : n ≠ 0 := by
    rintro rfl
    have : 0 < m * 10 ^ k * 2 ^ b := by positivity
    omega
  obtain ⟨j, t, hcore, ht⟩ := divCore_exact hm (Nat.pow_pos (by decide)) h hn
  have hdiv : UnpackedFloat.ofScientific Format.binary64 n (Int.negOfNat k) =
      .finite .positive m (b - a) hm := by
    have hneg : Int.negOfNat k = -(k : Int) := Int.negOfNat_eq
    simp only [UnpackedFloat.ofScientific, hneg]
    rw [dif_neg hn0, if_neg (by omega), if_neg (by norm_num; omega), if_neg (by omega)]
    simp only [neg_neg, Int.toNat_natCast, UnpackedFloat.div, hcore]
    have hround := round_exact .positive (e := t) (k := j) hm (ht ▸ h)
    simp only [ht] at hround
    exact hround
  unfold Float.ofScientific
  rw [dif_neg (by omega)]
  simp only [if_pos, Float.Model.ofScientific, hdiv]
  exact view_pack .positive hm h

/-! ## Numerals -/

/-- The places after the point that the exact value of a double may need. The powers with this
exponent are not to be computed. -/
@[irreducible] def places : Nat := 1074

theorem places_eq : places = 179 * 6 := by
  unfold places
  rfl

/-- The digits of the exact value of `m * 2 ^ e`, with all its places. -/
def exactDigits (m : Nat) (e : Int) : Nat :=
  m * 2 ^ (e + places).toNat * 5 ^ places

/-- A numeral of a double without a sign. -/
def exactNumeral (x : Float) : String :=
  match view x with
  | .finite _ m e =>
    String.ofList (Nat.toDigits 10 (exactDigits m e) ++ 'e' :: '-' :: Nat.toDigits 10 places)
  | _ => "1e999"

theorem digit?_of_isDigit {c : Char} (h : c.isDigit = true) :
    Text.digit? c = some (c.toNat - 48) := by
  have hc : 48 ≤ c.toNat ∧ c.toNat ≤ 57 := by
    simpa [Char.isDigit, UInt32.le_iff_toNat_le] using h
  simp only [Text.digit?]
  rw [if_pos (by omega), if_pos hc]

theorem digit?_of_mem_toDigits {n : Nat} {c : Char} (h : c ∈ Nat.toDigits 10 n) :
    Text.digit? c = some (c.toNat - 48) :=
  digit?_of_isDigit (Nat.isDigit_of_mem_toDigits (by decide) (by decide) h)

theorem foldl_digits (digits : List Char)
    (hdigits : ∀ c ∈ digits, Text.digit? c = some (c.toNat - 48)) (acc : Nat) :
    digits.foldl (fun acc c => match Text.digit? c with
      | some d => 10 * acc + d
      | none => acc) acc = Nat.ofDigitChars 10 digits acc := by
  induction digits generalizing acc with
  | nil => rfl
  | cons c digits ih =>
    rw [List.foldl_cons, hdigits c List.mem_cons_self, Nat.ofDigitChars_cons]
    exact ih (fun d hd => hdigits d (List.mem_cons_of_mem c hd)) _

theorem digitsValue_toDigits (n : Nat) : Text.digitsValue (Nat.toDigits 10 n) = n :=
  (foldl_digits _ (fun _ => digit?_of_mem_toDigits) 0).trans Nat.ofDigitChars_ten_toDigits

/-- A numeral with a negative exponent. -/
theorem decimal?_toDigits (n k : Nat) :
    Numeral.decimal? (Nat.toDigits 10 n ++ 'e' :: '-' :: Nat.toDigits 10 k) =
      some (Numeral.nearest n (-(k : Int))) := by
  have hdigits (n : Nat) : ∀ c ∈ Nat.toDigits 10 n, Text.isDigit c = true := by
    intro c hc
    rw [Text.isDigit, digit?_of_mem_toDigits hc]
    rfl
  have hrun (n : Nat) := Program.takeWhile_digits (hdigits n) [] (by simp)
  have hexponent : Numeral.exponent ('e' :: '-' :: Nat.toDigits 10 k) = (-(k : Int), []) := by
    have hrun := hrun k
    rw [List.append_nil] at hrun
    simp [Numeral.exponent, Numeral.sign, hrun, digitsValue_toDigits]
  have hparts : Numeral.parts? (Nat.toDigits 10 n ++ 'e' :: '-' :: Nat.toDigits 10 k) =
      some (⟨Nat.toDigits 10 n, [], -(k : Int)⟩, []) := by
    obtain ⟨hwhole, hafter⟩ := Program.takeWhile_digits (hdigits n)
      ('e' :: '-' :: Nat.toDigits 10 k) (by simp +decide)
    rw [Program.parts?_plain (by simp [hafter]), hwhole, hafter, hexponent, if_neg (by simp)]
  have hsign : Numeral.sign (Nat.toDigits 10 n ++ 'e' :: '-' :: Nat.toDigits 10 k) =
      (false, Nat.toDigits 10 n ++ 'e' :: '-' :: Nat.toDigits 10 k) := by
    cases hfirst : Nat.toDigits 10 n with
    | nil => exact absurd hfirst Nat.toDigits_ne_nil
    | cons c digits =>
      have hc := hdigits n c (by simp [hfirst])
      rw [List.cons_append, Program.sign_cons]
      have hne : c ≠ '-' ∧ c ≠ '+' := by
        constructor <;> rintro rfl <;> exact absurd hc (by decide)
      rw [if_neg hne.1, if_neg hne.2]
  simp [Numeral.decimal?, hsign, hparts, Numeral.Parts.value, Double.withSign,
    digitsValue_toDigits]

theorem ten_pow_le_five_pow (k : Nat) : 10 ^ (125 * k) ≤ 5 ^ (179 * k) := by
  rw [Nat.pow_mul, Nat.pow_mul]
  exact Nat.pow_le_pow_left (by norm_num) k

theorem two_pow_le_ten_pow (k : Nat) : 2 ^ (93 * k) ≤ 10 ^ (28 * k) := by
  rw [Nat.pow_mul, Nat.pow_mul]
  exact Nat.pow_le_pow_left (by norm_num) k

theorem lt_length_toDigits {n k : Nat} (h : 10 ^ k ≤ n) : k < (Nat.toDigits 10 n).length := by
  rcases Nat.eq_zero_or_pos k with rfl | hk
  · exact Nat.length_toDigits_pos
  · by_contra hlength
    have hlt := (Nat.length_toDigits_le_iff (by decide) hk).mp (Nat.not_lt.mp hlength)
    exact absurd h (Nat.not_le.mpr hlt)

theorem mul_pow_lt {m i : Nat} (k p : Nat) (hm : m < 2 ^ 53) (hi : i ≤ (93 * k + 41) + p) :
    m * 2 ^ i * 5 ^ p < 10 ^ (16 + (28 * k + 13) + p) :=
  calc m * 2 ^ i * 5 ^ p < 2 ^ 53 * 2 ^ ((93 * k + 41) + p) * 5 ^ p := by
        refine Nat.mul_lt_mul_of_pos_right ?_ (Nat.pow_pos (by decide))
        exact Nat.mul_lt_mul_of_lt_of_le hm (Nat.pow_le_pow_right (by decide) hi)
          (by positivity)
    _ = 2 ^ 53 * (2 ^ (93 * k) * 2 ^ 41) * (2 * 5) ^ p := by
        rw [Nat.pow_add, Nat.pow_add, Nat.mul_pow]
        ring
    _ ≤ 10 ^ 16 * (10 ^ (28 * k) * 10 ^ 13) * 10 ^ p := by
        refine Nat.mul_le_mul_right _ (Nat.mul_le_mul (by norm_num) ?_)
        exact Nat.mul_le_mul (two_pow_le_ten_pow k) (by norm_num)
    _ = 10 ^ (16 + (28 * k + 13) + p) := by
        rw [Nat.pow_add, Nat.pow_add, Nat.pow_add]

/-- The number of exact digits is within what numerals are read with. -/
theorem length_exactDigits {m : Nat} {e : Int} (hm : 0 < m) (h : Canonical m e) :
    750 ≤ (Nat.toDigits 10 (exactDigits m e)).length ∧
      (Nat.toDigits 10 (exactDigits m e)).length ≤ 309 + places := by
  have hpow : (e + places).toNat ≤ (93 * 10 + 41) + places := by
    have := h.highest
    omega
  have hhigh := mul_pow_lt 10 places h.below hpow
  have hlow := ten_pow_le_five_pow 6
  rw [← places_eq] at hlow
  constructor
  · have hlt := lt_length_toDigits (hlow.trans
      (Nat.le_mul_of_pos_left _ (show 0 < m * 2 ^ (e + places).toNat by positivity)))
    exact Nat.le_of_lt hlt
  · have hle := (Nat.length_toDigits_le_iff (by decide) (by omega)).mpr hhigh
    exact hle.trans (by omega)

/-- The exact digits are read as the double that they are the digits of. -/
theorem view_nearest {m : Nat} {e : Int} (h : Canonical m e) :
    view (Numeral.nearest (exactDigits m e) (-(places : Int))) = .finite false m e := by
  have hplaces : (places : Int) = 1074 := by rw [places_eq]; rfl
  have hlow : 0 ≤ e + (places : Int) := by
    have := h.lowest
    omega
  rcases Nat.eq_zero_or_pos m with rfl | hm
  · have he : e = -1074 := h.full.resolve_left (by omega)
    have hzero : view (0.0 : Float) = .finite false 0 (-1074) := by decide
    simp [Numeral.nearest, exactDigits, hzero, he]
  · obtain ⟨hmin, hmax⟩ := length_exactDigits hm h
    have hdigits : exactDigits m e ≠ 0 := by
      unfold exactDigits
      positivity
    have hnearest : Numeral.nearest (exactDigits m e) (-(places : Int)) =
        Float.ofScientific (exactDigits m e) true places := by
      unfold Numeral.nearest
      dsimp only
      rw [if_neg (by simp only [hdigits, false_or]; omega), if_neg (by omega),
        if_pos (by omega), Int.natAbs_neg, Int.natAbs_natCast]
    have hexponent : e = ((e + places).toNat : Int) - (places : Int) := by omega
    have hvalue : exactDigits m e * 2 ^ places =
        m * 10 ^ places * 2 ^ (e + places).toNat := by
      rw [exactDigits, show 10 = 2 * 5 from rfl, Nat.mul_pow]
      ring
    rw [hnearest, view_ofScientific hm (by omega) (by omega) (hexponent ▸ h) hvalue, ← hexponent]

/-- Every double without a sign is read back from its exact numeral. -/
theorem decimal?_exactNumeral {x : Float} (h : Unsigned x) :
    Numeral.decimal? (exactNumeral x).toList = some x := by
  unfold Unsigned at h
  unfold exactNumeral
  cases hview : view x with
  | notANumber => simp [hview] at h
  | infinite negative =>
    have hinfinity : Numeral.decimal? "1e999".toList = some infinity := by decide
    have hx : x = infinity := by
      refine eq_of_view ?_ (by simp [hview])
      simp only [hview] at h ⊢
      subst h
      decide
    rw [hinfinity, hx]
  | finite negative m e =>
    simp only [hview] at h ⊢
    subst h
    rw [String.toList_ofList, decimal?_toDigits]
    exact congrArg some (eq_of_view (by rw [hview, view_nearest (view_canonical hview)])
      (by rw [view_nearest (view_canonical hview)]; simp))

end Canvasflow.Double
