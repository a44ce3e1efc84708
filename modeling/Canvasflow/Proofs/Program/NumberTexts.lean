import Canvasflow.Proofs.Number.ReadBack

/-!
# Numbers and their texts

A number has a double next to it, an infinity beyond the range of doubles. What a program sees of a
number as a text is read as this double again, by whatever way the text is written
(`toNumber_text`). The number itself is refused beyond the range, while its text is not.
-/

namespace Canvasflow

open Double

/-- Whether a double is the one next to a number; a double is next to itself. -/
def Number.Nearest : Number → Float → Prop
  | .int n, x => RoundsTo x n
  | .double y, x => x = y

namespace Program.Value

variable {x : Float} {n : ℤ}

/-! ## Integers -/

theorem toString_eq_ofList (n : ℤ) : toString n = String.ofList
    (if decide (n < 0) then '-' :: Nat.toDigits 10 n.natAbs else Nat.toDigits 10 n.natAbs) := by
  cases n with
  | ofNat n => exact Nat.repr_eq_ofList_toDigits
  | negSucc n =>
    rw [decide_eq_true (Int.negSucc_lt_zero n), if_pos rfl]
    change "-" ++ (n + 1).repr = String.ofList (['-'] ++ _)
    rw [String.ofList_append, Nat.repr_eq_ofList_toDigits]
    rfl

/-- The text of an integer is read as the double next to it. -/
theorem roundsTo_toString (n : ℤ) : RoundsTo (textNumber (toString n)) n := by
  have hrounds := roundsTo_textNumber (Numeral.spells_toDigits n.natAbs) (decide (n < 0))
  rwa [← toString_eq_ofList, signed_natAbs] at hrounds

/-- An integer whose double is infinite has the infinity with its sign. -/
theorem eq_infinity_of_roundsTo (h : RoundsTo x n) (hx : x.isFinite = false) :
    x = withSign (decide (n < 0)) infinity := by
  have hview : view x = .infinite (decide ((n : ℚ) < 0)) := by
    refine h.infinite (not_lt.mp fun hsmall => ?_)
    rw [(h.finite hsmall).1] at hx
    cases hx
  refine eq_of_view (hview.trans ?_) (by simp [hview])
  rw [show decide ((n : ℚ) < 0) = decide (n < 0) by simp]
  cases decide (n < 0) <;> decide

/-! ## Doubles -/

theorem whole?_eq_some_iff :
    Number.whole? (.double x) = some n ↔ x.isFinite = true ∧ value x = n := by
  rw [← equalsInt_iff_value]
  simp [Number.whole?, equalsInt]

/-- The plain form of a mantissa and an exponent spells a number that is rounded to them, and that
is zero only if they are. -/
theorem spells_magnitude {m : Nat} {e : ℤ} (h : Canonical m e) :
    ∃ q, Numeral.Spells (if m = 0 then ['0', '.', '0'] else plainLayout.write (shortest m e)) q ∧
      nearest q = nearest (m * 2 ^ e) ∧ 0 ≤ q ∧ (0 < q ↔ (0 : ℚ) < m * 2 ^ e) := by
  obtain rfl | hm := Nat.eq_zero_or_pos m
  · have hzero : Numeral.Digits ['0'] := Numeral.digits_replicate 1
    refine ⟨_, Numeral.spells_whole hzero (by simp) 0, ?_⟩
    simp [show Nat.ofDigitChars 10 ['0'] 0 = 0 from rfl]
  · rw [if_neg hm.ne']
    have hnearest := nearest_shortest h hm
    have hpos : (0 : ℚ) < m * 2 ^ e := mul_pos (by exact_mod_cast hm) (two_zpow_pos e)
    have hnonneg : 0 ≤ (shortest m e).value := mul_nonneg (Nat.cast_nonneg _) (ten_zpow_pos _).le
    refine ⟨_, Numeral.spells_write plainLayout (shortest m e), ?_, hnonneg, ?_⟩
    · rw [hnearest, h.normal.nearest_eq]
    · refine iff_of_true (hnonneg.lt_of_ne fun hzero => ?_) hpos
      rw [← hzero, nearest_zero] at hnearest
      exact hpos.ne hnearest

/-- The plain form of a finite double is read as a double that equals it. -/
theorem roundsTo_plain (h : x.isFinite = true) : RoundsTo (textNumber (plain x)) (value x) := by
  obtain ⟨negative, m, e, hview⟩ := (isFinite_iff x).mp h
  obtain ⟨q, hspells, hnearest, hnonneg, hpos⟩ := spells_magnitude (view_canonical hview)
  have hnonneg' : (0 : ℚ) ≤ m * 2 ^ e := mul_nonneg (Nat.cast_nonneg m) (two_zpow_pos e).le
  rw [value_of_view hview, plain, hview]
  refine (roundsTo_textNumber hspells negative).of_nearest_eq ?_ ?_
  · cases negative with
    | false => exact hnearest
    | true => simp only [if_true, nearest_neg, hnearest]
  · cases negative with
    | false => exact iff_of_false hnonneg.not_gt hnonneg'.not_gt
    | true => simpa only [if_true, neg_lt_zero] using hpos

theorem same_doubleText (x : Float) : (textNumber (Number.doubleText x) == x) = true ∨
    (textNumber (Number.doubleText x)).isNaN = true ∧ x.isNaN = true := by
  cases hview : view x with
  | notANumber =>
    have htext : Number.doubleText x = "NaN" := by rw [Number.doubleText, hview]
    rw [htext]
    exact .inr ⟨by decide, (isNaN_iff x).mpr hview⟩
  | infinite negative =>
    have htext : Number.doubleText x = if negative then "-Infinity" else "Infinity" := by
      rw [Number.doubleText, hview]
    rw [htext, beq_eq, hview]
    cases negative <;> exact .inl (by decide)
  | finite negative m e =>
    left
    have hfinite : x.isFinite = true := (isFinite_iff x).mpr ⟨negative, m, e, hview⟩
    refine RoundsTo.same ?_ (roundsTo_value hfinite)
    rw [Number.doubleText, hview]
    dsimp only
    split
    · rename_i n hwhole
      split
      · rw [(whole?_eq_some_iff.mp hwhole).2]
        exact roundsTo_toString n
      · exact roundsTo_plain hfinite
    · exact roundsTo_plain hfinite

/-! ## Numbers -/

theorem text_eq_ok {v : Number} {heap : Heap} {text : String} :
    (num v).text heap = .ok text ↔ v.written? = some text := by
  rw [Value.text, textRoom, textWithin]
  cases v.written? <;> simp

theorem eq_toString_of_intText? {text : String} (h : Number.intText? n = some text) :
    text = toString n := by
  unfold Number.intText? at h
  split at h
  · exact (Option.some.inj h).symm
  · exact Option.some.inj (Option.ite_none_right_eq_some.mp h).2.symm

/-- Each number has a double next to it, and this is what it is converted to, unless the number is
an integer beyond the range, which has an infinity of its sign next to it and is refused. The text
of a number, where it can be formed, is converted to a double that equals the one next to the
number, also beyond the range; or neither is a number. -/
theorem toNumber_text (v : Number) : ∃ x, v.Nearest x ∧
    (v.InRange → (num v).toNumber = .ok x ∧ ∀ heap, ∃ text, (num v).text heap = .ok text) ∧
    (¬v.InRange → (num v).toNumber = .error .overflow ∧
      ∃ n, v = .int n ∧ x = withSign (decide (n < 0)) infinity) ∧
    ∀ heap text, (num v).text heap = .ok text →
      ∃ y, (str text).toNumber = .ok y ∧ ((y == x) = true ∨ y.isNaN = true ∧ x.isNaN = true) := by
  cases v with
  | double x =>
    refine ⟨x, rfl, fun _ => ⟨rfl, fun heap => ⟨_, text_eq_ok.mpr rfl⟩⟩, fun hrange => ?_,
      fun heap text htext => ?_⟩
    · exact absurd trivial hrange
    · cases text_eq_ok.mp htext
      exact ⟨_, rfl, same_doubleText x⟩
  | int n =>
    obtain ⟨x, hnearest, hof⟩ := ofInt?_eq n
    have hrange : x.isFinite = true ↔ n.natAbs < doubleRange := by
      rw [← ofInt?_isSome_iff, hof]
      split <;> simp [*]
    refine ⟨x, hnearest, fun hin => ⟨?_, fun heap => ⟨toString n, ?_⟩⟩,
      fun hout => ⟨?_, n, rfl, ?_⟩, fun heap text htext => ⟨_, rfl, .inl ?_⟩⟩
    · rw [toNumber, Number.toFloat?, hof, if_pos (hrange.mpr hin)]
    · exact text_eq_ok.mpr (Number.intText?_of_range hin)
    · rw [toNumber, Number.toFloat?, hof, if_neg (hrange.not.mpr hout)]
    · exact eq_infinity_of_roundsTo hnearest (by simpa using hrange.not.mpr hout)
    · have hwritten := text_eq_ok.mp htext
      rw [Number.written?] at hwritten
      rw [eq_toString_of_intText? hwritten]
      exact (roundsTo_toString n).same hnearest

end Program.Value

end Canvasflow
