import Canvasflow.Program.Convert
import Canvasflow.Proofs.Number.ShortestDecimal

/-!
# Written numbers are read back

The texts of numbers are numerals with the digits that are usual, and such a numeral has an exact
value (`Spells`). Every layout of a decimal spells its value (`spells_write`), whether there is a
point, an exponent or both, and a text that spells a number, with a sign or without, is read as the
double next to it (`roundsTo_textNumber`).
-/

namespace Canvasflow.Numeral

open Canvasflow.Text Canvasflow.Double

/-! ## Digits -/

/-- A run of the usual digits. -/
def Digits (chars : List Char) : Prop :=
  ∀ c ∈ chars, c.isDigit = true

variable {chars digits whole fraction tail : List Char} {power : ℤ} {q : ℚ}

theorem Digits.append (h : Digits chars) (h' : Digits digits) : Digits (chars ++ digits) := by
  simpa only [Digits, List.forall_mem_append] using And.intro h h'

theorem digits_replicate (n : Nat) : Digits (List.replicate n '0') := by
  intro c hc
  rw [List.eq_of_mem_replicate hc]
  rfl

theorem digits_toDigits (n : Nat) : Digits (Nat.toDigits 10 n) :=
  fun _ => Nat.isDigit_of_mem_toDigits (by decide) (by decide)

theorem digits_padZeros (width : Nat) (h : Digits digits) : Digits (padZeros width digits) :=
  (digits_replicate _).append h

theorem Digits.isDigit (h : Digits digits) : ∀ c ∈ digits, Text.isDigit c = true := by
  intro c hc
  rw [Text.isDigit, digit?_of_isDigit (h c hc)]
  rfl

/-- The usual digits are read with base ten. -/
theorem Digits.value_eq (h : Digits digits) : digitsValue digits = Nat.ofDigitChars 10 digits 0 :=
  foldl_digits digits (fun c hc => digit?_of_isDigit (h c hc)) 0

theorem ofDigitChars_padZeros (width : Nat) (digits : List Char) :
    Nat.ofDigitChars 10 (padZeros width digits) 0 = Nat.ofDigitChars 10 digits 0 := by
  rw [padZeros, Nat.ofDigitChars_append, Nat.ofDigitChars_replicate_zero, Nat.mul_zero]

/-! ## Numerals and their parts -/

/-- Whether the character occurs in the texts of numbers. -/
def Plain (c : Char) : Prop :=
  c.isDigit = true ∨ c ∈ ['.', 'e', '+', '-']

instance (c : Char) : Decidable (Plain c) :=
  inferInstanceAs (Decidable (_ ∨ _))

/-- What follows the digits of a numeral to its end: nothing, or an exponent. -/
structure Tail (tail : List Char) (power : ℤ) : Prop where
  exponent_eq : exponent tail = (power, [])
  stops : ∀ c ∈ tail.head?, Text.isDigit c = false ∧ c ≠ '.'
  plain : ∀ c ∈ tail, Plain c

theorem tail_nil : Tail [] 0 :=
  ⟨rfl, nofun, nofun⟩

theorem tail_exponent (negative : Bool) (h : Digits digits) (hne : digits ≠ []) :
    Tail ('e' :: (if negative then '-' else '+') :: digits)
      (if negative then -(digitsValue digits : ℤ) else digitsValue digits) := by
  have hrun := Program.takeWhile_digits h.isDigit [] (by simp)
  rw [List.append_nil] at hrun
  refine ⟨?_, by simp +decide, ?_⟩
  · cases negative <;> simp [exponent, sign, hrun, hne]
  · rw [List.forall_mem_cons, List.forall_mem_cons]
    exact ⟨.inr (by decide), .inr (by cases negative <;> decide), fun c hc => .inl (h c hc)⟩

/-- Whether a text is a numeral without a sign, and what number it writes. -/
structure Spells (chars : List Char) (q : ℚ) : Prop where
  parts : ∃ parts : Parts, parts? chars = some (parts, []) ∧
    (digitsValue (parts.whole ++ parts.fraction) : ℚ) *
      10 ^ (parts.exponent - (parts.fraction.length : ℤ)) = q
  first : ∃ c ∈ chars.head?, c.isDigit = true
  plain : ∀ c ∈ chars, Plain c

theorem Digits.first (h : Digits whole) (hne : whole ≠ []) (tail : List Char) :
    ∃ c ∈ (whole ++ tail).head?, c.isDigit = true := by
  obtain ⟨c, rest, rfl⟩ := List.exists_cons_of_ne_nil hne
  exact ⟨c, rfl, h c List.mem_cons_self⟩

/-- A numeral without a point. -/
theorem spells_digits (h : Digits whole) (hne : whole ≠ []) (htail : Tail tail power)
    (hq : (Nat.ofDigitChars 10 whole 0 : ℚ) * 10 ^ power = q) : Spells (whole ++ tail) q where
  parts := by
    obtain ⟨hwhole, hafter⟩ := Program.takeWhile_digits h.isDigit tail fun c hc =>
      (htail.stops c hc).1
    refine ⟨⟨whole, [], power⟩, ?_, ?_⟩
    · rw [Program.parts?_plain, hwhole, hafter, htail.exponent_eq, if_neg hne]
      rw [hafter]
      exact fun hpoint => (htail.stops '.' hpoint).2 rfl
    · simpa [h.value_eq] using hq
  first := h.first hne tail
  plain := List.forall_mem_append.mpr ⟨fun c hc => .inl (h c hc), htail.plain⟩

/-- A numeral with a point. -/
theorem spells_fraction (h : Digits whole) (hne : whole ≠ []) (hfraction : Digits fraction)
    (htail : Tail tail power) (hq : (Nat.ofDigitChars 10 (whole ++ fraction) 0 : ℚ) *
      10 ^ (power - (fraction.length : ℤ)) = q) :
    Spells (whole ++ '.' :: (fraction ++ tail)) q where
  parts := by
    obtain ⟨hwhole, hafter⟩ := Program.takeWhile_digits h.isDigit ('.' :: (fraction ++ tail))
      (by simp +decide)
    obtain ⟨hrun, hrest⟩ := Program.takeWhile_digits hfraction.isDigit tail fun c hc =>
      (htail.stops c hc).1
    refine ⟨⟨whole, fraction, power⟩, ?_, ?_⟩
    · rw [Program.parts?_point hafter, hwhole, hrun, hrest, htail.exponent_eq]
      simp [hne]
    · rwa [(h.append hfraction).value_eq]
  first := h.first hne _
  plain := by
    rw [List.forall_mem_append, List.forall_mem_cons, List.forall_mem_append]
    exact ⟨fun c hc => .inl (h c hc), .inr (by decide), fun c hc => .inl (hfraction c hc),
      htail.plain⟩

/-! ## Written numbers -/

theorem spells_toDigits (n : Nat) : Spells (Nat.toDigits 10 n) n := by
  have hspells := spells_digits (digits_toDigits n) Nat.toDigits_ne_nil tail_nil rfl
  rwa [List.append_nil, zpow_zero, mul_one, Nat.ofDigitChars_ten_toDigits] at hspells

/-- Zeros stand for an exponent, and there is one more behind the point. -/
theorem spells_whole (h : Digits digits) (hne : digits ≠ []) (zeros : Nat) :
    Spells (digits ++ List.replicate zeros '0' ++ ['.', '0'])
      (Nat.ofDigitChars 10 digits 0 * 10 ^ (zeros : ℤ)) := by
  have hfraction : Digits ['0'] := digits_replicate 1
  refine spells_fraction (h.append (digits_replicate zeros)) (by simp [hne]) hfraction tail_nil ?_
  rw [Nat.ofDigitChars_append, Nat.ofDigitChars_append, Nat.ofDigitChars_replicate_zero,
    show ['0'] = List.replicate 1 '0' from rfl, Nat.ofDigitChars_replicate_zero]
  push_cast
  rw [List.length_singleton, zpow_natCast, zero_sub, Nat.cast_one, zpow_neg, zpow_one]
  field_simp

/-- The point cuts the digits where the exponent says. -/
theorem spells_cut (h : Digits digits) (places : Nat) :
    let padded := padZeros (places + 1) digits
    Spells (padded.take (padded.length - places) ++ '.' :: padded.drop (padded.length - places))
      (Nat.ofDigitChars 10 digits 0 * 10 ^ (-places : ℤ)) := by
  intro padded
  have hpadded : Digits padded := digits_padZeros _ h
  have hlength : places + 1 ≤ padded.length := by
    simp only [padded, padZeros, List.length_append, List.length_replicate]
    omega
  have hwhole : Digits (padded.take (padded.length - places)) :=
    fun c hc => hpadded c (List.mem_of_mem_take hc)
  have hfraction : Digits (padded.drop (padded.length - places)) :=
    fun c hc => hpadded c (List.mem_of_mem_drop hc)
  have hne : padded.take (padded.length - places) ≠ [] := by
    rw [ne_eq, List.take_eq_nil_iff, not_or]
    exact ⟨by omega, List.ne_nil_of_length_pos (by omega)⟩
  have hspells := spells_fraction hwhole hne hfraction tail_nil rfl
  rw [List.append_nil, List.take_append_drop, List.length_drop, zero_sub,
    show padded.length - (padded.length - places) = places by omega] at hspells
  rwa [ofDigitChars_padZeros] at hspells

/-- An exponent tells the place of the first digit. -/
theorem spells_scientific (digits : List Char) (width : Nat) (place : ℤ) :
    Digits digits → digits ≠ [] → Spells ((match digits with
        | first :: second :: rest => first :: '.' :: second :: rest
        | short => short) ++
        'e' :: (if place < 0 then '-' else '+') :: padZeros width (decimalDigits place.natAbs))
      (Nat.ofDigitChars 10 digits 0 * 10 ^ (place - (digits.length - 1 : ℤ))) := by
  intro h hne
  have hpadded : Digits (padZeros width (decimalDigits place.natAbs)) :=
    digits_padZeros width (digits_toDigits _)
  have hpower : (if decide (place < 0) = true
      then -(digitsValue (padZeros width (decimalDigits place.natAbs)) : ℤ)
      else digitsValue (padZeros width (decimalDigits place.natAbs))) = place := by
    rw [hpadded.value_eq, ofDigitChars_padZeros, decimalDigits, Nat.ofDigitChars_ten_toDigits]
    simp only [decide_eq_true_eq]
    split <;> omega
  have htail := tail_exponent (decide (place < 0)) hpadded
    (by simp [padZeros, decimalDigits, Nat.toDigits_ne_nil])
  rw [hpower] at htail
  simp only [decide_eq_true_eq] at htail
  match digits, h, hne with
  | [first], h, hne =>
    refine spells_digits h hne htail ?_
    simp
  | first :: second :: rest, h, _ =>
    have hfirst : Digits [first] := List.forall_mem_singleton.mpr (h first List.mem_cons_self)
    have hrest : Digits (second :: rest) := fun c hc => h c (List.mem_cons_of_mem _ hc)
    refine spells_fraction hfirst (List.cons_ne_nil _ _) hrest htail ?_
    simp

/-- However a decimal is laid out, its value is spelt. -/
theorem spells_write (layout : Layout) (decimal : Decimal) :
    Spells (layout.write decimal) decimal.value := by
  have hdigits : Digits (decimalDigits decimal.digits) := digits_toDigits decimal.digits
  have hne : decimalDigits decimal.digits ≠ [] := Nat.toDigits_ne_nil
  have hvalue : decimal.value = Nat.ofDigitChars 10 (decimalDigits decimal.digits) 0 *
      10 ^ decimal.exponent := by
    rw [decimalDigits, Nat.ofDigitChars_ten_toDigits, Decimal.value]
  rw [hvalue]
  unfold Layout.write
  dsimp only
  split
  · split
    · have hspells := spells_whole hdigits hne decimal.exponent.toNat
      rwa [Int.toNat_of_nonneg ‹0 ≤ decimal.exponent›] at hspells
    · have hspells := spells_cut hdigits (-decimal.exponent).toNat
      rwa [Int.toNat_of_nonneg (by omega), neg_neg] at hspells
  · have hspells := spells_scientific _ layout.exponentWidth
      (decimal.exponent + ((decimalDigits decimal.digits).length : ℤ) - 1) hdigits hne
    rwa [show ∀ a b : ℤ, a + b - 1 - (b - 1) = a by intros; ring] at hspells

/-! ## Reading -/

/-- A numeral with or without a minus is read as the double next to its value. -/
theorem decimal?_of_spells (h : Spells chars q) (negative : Bool) :
    ∃ x, decimal? (if negative then '-' :: chars else chars) = some x ∧
      RoundsTo x (if negative then -q else q) := by
  obtain ⟨parts, hparts, hvalue⟩ := h.parts
  obtain ⟨c, hc, hdigit⟩ := h.first
  refine ⟨withSign negative parts.value, ?_, ?_⟩
  · have hsign : sign (if negative then '-' :: chars else chars) = (negative, chars) := by
      cases negative with
      | true => rfl
      | false =>
        obtain ⟨rest, rfl⟩ := List.head?_eq_some_iff.mp hc
        have hne : c ≠ '-' ∧ c ≠ '+' := by
          constructor <;> rintro rfl <;> exact absurd hdigit (by decide)
        simp [Program.sign_cons, hne.1, hne.2]
    simp [decimal?, hsign, hparts]
  · rw [← hvalue]
    exact (roundsTo_nearest _ _).withSign negative

theorem Plain.isBlank_eq {c : Char} (h : Plain c) : isBlank c = false := by
  rcases h with hdigit | hother
  · have hc : 48 ≤ c.toNat ∧ c.toNat ≤ 57 := by
      simpa [Char.isDigit, UInt32.le_iff_toNat_le] using hdigit
    simp only [isBlank, Bool.or_eq_false_iff, Bool.and_eq_false_iff, decide_eq_false_iff_not,
      beq_eq_false_iff_ne]
    omega
  · simp only [List.mem_cons, List.not_mem_nil, or_false] at hother
    rcases hother with rfl | rfl | rfl | rfl <;> rfl

/-- There is nothing to trim. -/
theorem trimChars_plain (h : ∀ c ∈ chars, Plain c) : trimChars chars = chars := by
  have hdrop {chars : List Char} (h : ∀ c ∈ chars, Plain c) : chars.dropWhile isBlank = chars := by
    cases chars with
    | nil => rfl
    | cons c rest => rw [List.dropWhile_cons_of_neg (by simp [(h c List.mem_cons_self).isBlank_eq])]
  rw [trimChars, hdrop h, trimEnd, hdrop fun c hc => h c (List.mem_reverse.mp hc),
    List.reverse_reverse]

end Canvasflow.Numeral

namespace Canvasflow.Program.Value

open Canvasflow.Numeral Canvasflow.Double

variable {chars : List Char} {q : ℚ}

/-- A plain text is no word and no hexadecimal numeral. -/
theorem textNumber_plain (h : ∀ c ∈ chars, Plain c) (hne : chars ≠ []) :
    textNumber (String.ofList chars) = (decimal? chars).getD notANumber := by
  have hword (word : String) (c : Char) (hc : c ∈ word.toList) (hplain : ¬Plain c) :
      String.ofList chars ≠ word := by
    rintro rfl
    rw [String.toList_ofList] at hc
    exact hplain (h c hc)
  have hinfinity := hword "Infinity" 'I' (by decide) (by decide)
  have hpositive := hword "+Infinity" 'I' (by decide) (by decide)
  have hnegative := hword "-Infinity" 'I' (by decide) (by decide)
  have hletter : 'x' ∉ chars ∧ 'X' ∉ chars :=
    ⟨fun hx => absurd (h 'x' hx) (by decide), fun hx => absurd (h 'X' hx) (by decide)⟩
  unfold textNumber
  dsimp only
  rw [String.toList_ofList, trimChars_plain h, if_neg (by simp [hne]),
    if_neg (not_or.mpr ⟨hinfinity, hpositive⟩), if_neg hnegative]
  split
  · rename_i n hhex
    split at hhex
    · rename_i x digits
      have hx : ¬(x = 'x' ∨ x = 'X') := by
        rintro (rfl | rfl)
        · exact hletter.1 (by simp)
        · exact hletter.2 (by simp)
      rw [if_neg hx] at hhex
      cases hhex
    · cases hhex
  · rfl

/-- A text that spells a number is read as the double next to it. -/
theorem roundsTo_textNumber (h : Spells chars q) (negative : Bool) :
    RoundsTo (textNumber (String.ofList (if negative then '-' :: chars else chars)))
      (if negative then -q else q) := by
  obtain ⟨x, hx, hrounds⟩ := decimal?_of_spells h negative
  have hplain : ∀ c ∈ (if negative then '-' :: chars else chars), Plain c := by
    cases negative with
    | false => exact h.plain
    | true => exact List.forall_mem_cons.mpr ⟨by decide, h.plain⟩
  have hne : (if negative then '-' :: chars else chars) ≠ [] := by
    obtain ⟨c, hc, -⟩ := h.first
    cases negative with
    | false => exact List.ne_nil_of_mem (List.mem_of_mem_head? hc)
    | true => exact List.cons_ne_nil _ _
  rwa [textNumber_plain hplain hne, hx, Option.getD_some]

end Canvasflow.Program.Value
