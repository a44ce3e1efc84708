import Canvasflow.Text.Case
import Mathlib

/-!
# The weight of a text

Upper case may lengthen a text, as a letter becomes up to three characters. The weight of a
character is the greatest number of characters that case maps can make of it, so no case map adds to
the weight of a text, and every text has at most its weight in characters and at least a third of
it.
-/

namespace Canvasflow.Text

/-- The code points that become several characters, each with their number. The capital sharp s does
so by way of the small one. -/
def growing : List (Nat × Nat) :=
  (0x130, 2) :: (0x1E9E, 2) :: upperExpansions.toList.map fun row => (row.1, row.2.length)

/-- How many characters case maps can make of a code point. -/
def codeWeight (code : Nat) : Nat :=
  match growing.find? fun row => row.1 == code with
  | some row => row.2
  | none => 1

/-- How many characters case maps can make of some characters. -/
def charsWeight (chars : List Char) : Nat :=
  (chars.map fun c => codeWeight c.toNat).sum

/-- How many characters case maps can make of a text. -/
def weight (text : String) : Nat :=
  charsWeight text.toList

theorem growing_bounds : ∀ row ∈ growing, 2 ≤ row.2 ∧ row.2 ≤ 3 := by decide +kernel

theorem growing_ascii : ∀ row ∈ growing, 0x80 ≤ row.1 := by decide +kernel

theorem growing_nodup : (growing.map Prod.fst).Nodup := by decide +kernel

theorem codeWeight_bounds (code : Nat) : 1 ≤ codeWeight code ∧ codeWeight code ≤ 3 := by
  unfold codeWeight
  split
  · rename_i row h
    have := growing_bounds row (List.mem_of_find?_eq_some h)
    omega
  · omega

theorem codeWeight_of_mem {row : Nat × Nat} (h : row ∈ growing) : codeWeight row.1 = row.2 := by
  unfold codeWeight
  cases hfind : growing.find? fun other => other.1 == row.1 with
  | none => simpa using List.find?_eq_none.mp hfind row h
  | some other =>
    have hkey : other.1 = row.1 := by simpa using List.find?_some hfind
    rw [List.inj_on_of_nodup_map growing_nodup (List.mem_of_find?_eq_some hfind) h hkey]

theorem codeWeight_eq_one {code : Nat} (h : ∀ row ∈ growing, row.1 ≠ code) :
    codeWeight code = 1 := by
  unfold codeWeight
  rw [List.find?_eq_none.mpr (by simpa using h)]

/-! ## The tables -/

/-- Whether a row of a case map leads to no growing code point but from one that grows as much. -/
def leadsBack (row : Nat × Nat × Nat × Int) : Bool :=
  let first := (row.1 + row.2.2.2).toNat
  let last := (row.2.1 + row.2.2.2).toNat
  0 ≤ row.1 + row.2.2.2 && growing.all fun target =>
    Nat.blt target.1 first || Nat.blt last target.1 || (target.1 - first) % row.2.2.1 != 0 ||
      growing.any fun source =>
        source.1 + first == target.1 + row.1 && Nat.ble target.2 source.2

theorem upperRows_leadBack : upperRows.toList.all leadsBack = true := by decide +kernel

theorem lowerRows_leadBack : lowerRows.toList.all leadsBack = true := by decide +kernel

/-- What letters expand to does not grow again. -/
theorem upperExpansions_settled : ∀ row ∈ upperExpansions.toList, ∀ code ∈ row.2,
    codeWeight (Char.ofNat code).toNat = 1 := by decide +kernel

theorem toNat_ofNat_of_ne_zero {code : Nat} (h : (Char.ofNat code).toNat ≠ 0) :
    (Char.ofNat code).toNat = code := by
  unfold Char.ofNat at h ⊢
  split at h
  · rename_i hvalid
    rw [dif_pos hvalid]
    rfl
  · exact absurd rfl h

/-- A shift of case does not add to the weight. -/
theorem shiftCase_weight {rows : Array (Nat × Nat × Nat × Int)}
    (hrows : rows.toList.all leadsBack = true) (c : Char) :
    codeWeight (shiftCase rows c).toNat ≤ codeWeight c.toNat := by
  unfold shiftCase
  split
  · rename_i row hfind
    have hback := List.all_eq_true.mp hrows row (Array.mem_of_find?_eq_some hfind).val
    have hrow := Array.find?_some hfind
    simp only [Bool.and_eq_true, decide_eq_true_eq, beq_iff_eq] at hrow
    obtain ⟨⟨hfirst, hlast⟩, hstep⟩ := hrow
    -- only a growing code point needs to be traced back, and none of them is zero
    by_cases hgrows : ∃ target ∈ growing, target.1 = (Char.ofNat (c.toNat + row.2.2.2).toNat).toNat
    · obtain ⟨target, htarget, hcode⟩ := hgrows
      have hascii := growing_ascii target htarget
      rw [← hcode, codeWeight_of_mem htarget]
      rw [toNat_ofNat_of_ne_zero (by omega)] at hcode
      simp only [leadsBack, Bool.and_eq_true, decide_eq_true_eq, List.all_eq_true] at hback
      have htraced := hback.2 target htarget
      simp only [Bool.or_eq_true, Nat.blt_eq, bne_iff_ne, List.any_eq_true, Bool.and_eq_true,
        beq_iff_eq, Nat.ble_eq] at htraced
      obtain ((hbelow | habove) | hoff) | ⟨source, hsource, hplace, hle⟩ := htraced
      · omega
      · omega
      · refine absurd ?_ hoff
        rw [← hstep]
        congr 1
        omega
      · rw [show c.toNat = source.1 by omega, codeWeight_of_mem hsource]
        exact hle
    · rw [codeWeight_eq_one fun target htarget hcode => hgrows ⟨target, htarget, hcode⟩]
      exact (codeWeight_bounds _).1
  · exact Nat.le_refl _

/-! ## Characters and texts -/

theorem codeWeight_of_ascii {code : Nat} (h : code < 0x80) : codeWeight code = 1 :=
  codeWeight_eq_one fun row hrow heq => by
    have := growing_ascii row hrow
    omega

theorem ascii_case : ∀ code < 0x80,
    (Char.ofNat code).toUpper.toNat < 0x80 ∧ (Char.ofNat code).toLower.toNat < 0x80 := by
  decide +kernel

theorem ascii_case_lt {c : Char} (h : c.toNat < 0x80) :
    c.toUpper.toNat < 0x80 ∧ c.toLower.toNat < 0x80 := by
  simpa using ascii_case c.toNat h

section Characters

variable {chars : List Char}

@[simp] theorem charsWeight_nil : charsWeight [] = 0 := rfl

@[simp] theorem charsWeight_cons (c : Char) (chars : List Char) :
    charsWeight (c :: chars) = codeWeight c.toNat + charsWeight chars := by
  simp [charsWeight]

@[simp] theorem charsWeight_append (front back : List Char) :
    charsWeight (front ++ back) = charsWeight front + charsWeight back := by
  simp [charsWeight]

@[simp] theorem charsWeight_reverse (chars : List Char) :
    charsWeight chars.reverse = charsWeight chars := by
  induction chars with
  | nil => rfl
  | cons c rest ih =>
    rw [List.reverse_cons, charsWeight_append, ih]
    simp
    omega

theorem charsWeight_sublist {fewer : List Char} (h : fewer.Sublist chars) :
    charsWeight fewer ≤ charsWeight chars := by
  induction h with
  | slnil => exact Nat.le_refl _
  | cons c _ ih => exact Nat.le_trans ih (by simp)
  | cons_cons c _ ih => simpa using ih

theorem charsWeight_bounds (chars : List Char) :
    chars.length ≤ charsWeight chars ∧ charsWeight chars ≤ 3 * chars.length := by
  induction chars with
  | nil => simp
  | cons c rest ih =>
    have := codeWeight_bounds c.toNat
    rw [charsWeight_cons, List.length_cons]
    omega

theorem charsWeight_eq_length (h : ∀ c ∈ chars, codeWeight c.toNat = 1) :
    charsWeight chars = chars.length := by
  induction chars with
  | nil => rfl
  | cons c rest ih =>
    rw [charsWeight_cons, h c (by simp), ih fun c hc => h c (List.mem_cons_of_mem _ hc),
      List.length_cons, Nat.add_comm]

theorem charsWeight_flatMap_le {f : Char → List Char}
    (h : ∀ c, charsWeight (f c) ≤ codeWeight c.toNat) (chars : List Char) :
    charsWeight (chars.flatMap f) ≤ charsWeight chars := by
  induction chars with
  | nil => exact Nat.le_refl _
  | cons c rest ih =>
    rw [List.flatMap_cons, charsWeight_append, charsWeight_cons]
    exact Nat.add_le_add (h c) ih

end Characters

theorem charsWeight_upperChar (c : Char) : charsWeight (upperChar c) ≤ codeWeight c.toNat := by
  unfold upperChar
  split
  · rename_i hascii
    simpa [codeWeight_of_ascii (ascii_case_lt hascii).1] using (codeWeight_bounds c.toNat).1
  · split
    · rename_i row hfind
      have hcode : row.1 = c.toNat := by simpa using Array.find?_some hfind
      have hmem := (Array.mem_of_find?_eq_some hfind).val
      have hgrowing : (row.1, row.2.length) ∈ growing :=
        List.mem_cons_of_mem _ (List.mem_cons_of_mem _ (List.mem_map_of_mem hmem))
      have hsettled : ∀ d ∈ row.2.map Char.ofNat, codeWeight d.toNat = 1 := by
        intro d hd
        obtain ⟨code, hcode, rfl⟩ := List.mem_map.mp hd
        exact upperExpansions_settled row hmem code hcode
      have hweight : charsWeight (row.2.map Char.ofNat) = codeWeight c.toNat := by
        rw [charsWeight_eq_length hsettled, List.length_map, ← hcode, codeWeight_of_mem hgrowing]
      exact Nat.le_of_eq hweight
    · simpa using shiftCase_weight upperRows_leadBack c

theorem charsWeight_lowerChar (c : Char) : charsWeight (lowerChar c) ≤ codeWeight c.toNat := by
  unfold lowerChar
  split
  · rename_i hascii
    simpa [codeWeight_of_ascii (ascii_case_lt hascii).2] using (codeWeight_bounds c.toNat).1
  · split
    · rename_i hcode
      rw [hcode]
      decide +kernel
    · simpa using shiftCase_weight lowerRows_leadBack c

/-- The lower case of the characters read so far and of those to come. -/
theorem charsWeight_lowerOnto (done before chars : List Char) :
    charsWeight (lowerOnto done before chars) ≤ charsWeight done + charsWeight chars := by
  induction chars generalizing done before with
  | nil => simp [lowerOnto]
  | cons c rest ih =>
    rw [lowerOnto]
    refine Nat.le_trans (ih _ _) ?_
    rw [charsWeight_append, charsWeight_reverse, charsWeight_cons]
    suffices charsWeight (if c.toNat = 0x3A3 then
        [Char.ofNat (if endsWord before rest then 0x3C2 else 0x3C3)] else lowerChar c) ≤
        codeWeight c.toNat by omega
    split
    · rename_i hsigma
      rw [hsigma]
      split <;> decide +kernel
    · exact charsWeight_lowerChar c

theorem weight_upper_le (text : String) : weight (upper text) ≤ weight text := by
  unfold weight upper
  rw [String.toList_ofList]
  exact charsWeight_flatMap_le charsWeight_upperChar _

theorem weight_lower_le (text : String) : weight (lower text) ≤ weight text := by
  unfold weight lower
  rw [String.toList_ofList]
  simpa using charsWeight_lowerOnto [] [] text.toList

theorem weight_bounds (text : String) :
    text.length ≤ weight text ∧ weight text ≤ 3 * text.length := by
  rw [← String.length_toList]
  exact charsWeight_bounds _

end Canvasflow.Text
