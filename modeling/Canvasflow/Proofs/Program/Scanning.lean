import Canvasflow.Program.Parser
import Mathlib.Data.List.Find
import Mathlib.Data.List.TakeWhile

/-!
# Where the scanners of program text stop

Each scanner looks at its own characters and at as much of what follows as could continue them.
White space continues none of them: a numeral and an operator have the same length in front of
anything that stands apart, and a quoted text and a block comment are closed by their own characters
whatever follows. The characters that a scanner takes are found again by themselves.
-/

namespace Canvasflow.Program

open Canvasflow.Numeral (exponent parts? sign)
open Canvasflow.Text (isDigit)

/-- Whether a character is white space between tokens. -/
def isWhite (c : Char) : Bool :=
  isLineBlank c || c = '\n'

/-- The text ends here, or white space follows. -/
def Apart (rest : List Char) : Prop :=
  ∀ c ∈ rest.head?, isWhite c = true

theorem isWhite_cases {c : Char} (h : isWhite c = true) :
    c = ' ' ∨ c = '\t' ∨ c = '\r' ∨ c = '\n' := by
  simpa [isWhite, isLineBlank, or_assoc] using h

theorem Apart.nil : Apart [] := by
  simp [Apart]

theorem apart_cons {c : Char} {rest : List Char} : Apart (c :: rest) ↔ isWhite c = true := by
  simp [Apart]

theorem Apart.append {gap : List Char} (h : Apart gap) (hgap : gap ≠ []) (rest : List Char) :
    Apart (gap ++ rest) := by
  cases gap with
  | nil => exact absurd rfl hgap
  | cons c gap => exact h

/-- A property that no white character has does not hold of what follows. -/
theorem Apart.stops {p : Char → Bool} {rest : List Char} (h : Apart rest)
    (hp : p ' ' = false ∧ p '\t' = false ∧ p '\r' = false ∧ p '\n' = false) :
    ∀ c ∈ rest.head?, p c = false := by
  intro c hc
  obtain rfl | rfl | rfl | rfl := isWhite_cases (h c hc)
  exacts [hp.1, hp.2.1, hp.2.2.1, hp.2.2.2]

section Runs

variable {p : Char → Bool} {rest : List Char} (h : ∀ c ∈ rest.head?, p c = false)

include h

/-- A run of characters ends before a character of another kind. -/
theorem takeWhile_append (chars : List Char) :
    (chars ++ rest).takeWhile p = chars.takeWhile p := by
  induction chars with
  | nil => cases rest <;> simp_all
  | cons c chars ih => simp [List.takeWhile_cons, ih]

theorem dropWhile_append (chars : List Char) :
    (chars ++ rest).dropWhile p = chars.dropWhile p ++ rest := by
  induction chars with
  | nil => cases rest <;> simp_all
  | cons c chars ih =>
    by_cases hc : p c = true
    · simp [hc, ih]
    · simp [hc]

end Runs

/-- What is left of a text without the run in front of it. -/
theorem drop_run (p : Char → Bool) (chars : List Char) :
    chars.drop (chars.takeWhile p).length = chars.dropWhile p := by
  induction chars with
  | nil => rfl
  | cons c chars ih => by_cases hc : p c = true <;> simp [hc, ih]

/-! ## Numerals -/

theorem Apart.undigited {rest : List Char} (h : Apart rest) :
    ∀ c ∈ rest.head?, isDigit c = false :=
  h.stops (by decide)

theorem sign_cons (c : Char) (chars : List Char) :
    sign (c :: chars) = if c = '-' then (true, chars) else (false, if c = '+' then chars else
      c :: chars) := by
  unfold sign
  split <;> simp_all

theorem sign_append {rest : List Char} (h : Apart rest) (chars : List Char) :
    sign (chars ++ rest) = ((sign chars).1, (sign chars).2 ++ rest) := by
  cases chars with
  | cons c chars =>
    simp only [List.cons_append, sign_cons]
    split_ifs <;> rfl
  | nil =>
    cases rest with
    | nil => rfl
    | cons c rest => obtain rfl | rfl | rfl | rfl := isWhite_cases (apart_cons.mp h) <;> rfl

theorem exponent_append {rest : List Char} (h : Apart rest) (chars : List Char) :
    exponent (chars ++ rest) = ((exponent chars).1, (exponent chars).2 ++ rest) := by
  cases chars with
  | nil =>
    cases rest with
    | nil => rfl
    | cons c rest => obtain rfl | rfl | rfl | rfl := isWhite_cases (apart_cons.mp h) <;> rfl
  | cons letter chars =>
    simp only [List.cons_append, exponent, sign_append h, takeWhile_append h.undigited,
      dropWhile_append h.undigited]
    split_ifs <;> rfl

/-- A numeral with a point needs a digit on one side of it. -/
theorem parts?_point {chars after : List Char} (h : chars.dropWhile isDigit = '.' :: after) :
    parts? chars =
      if chars.takeWhile isDigit = [] ∧ after.takeWhile isDigit = [] then none
      else some (⟨chars.takeWhile isDigit, after.takeWhile isDigit,
        (exponent (after.dropWhile isDigit)).1⟩, (exponent (after.dropWhile isDigit)).2) := by
  unfold parts?
  cases hwhole : chars.takeWhile isDigit <;> simp [h]

/-- A numeral without a point starts with a digit. -/
theorem parts?_plain {chars : List Char} (h : (chars.dropWhile isDigit).head? ≠ some '.') :
    parts? chars =
      if chars.takeWhile isDigit = [] then none
      else some (⟨chars.takeWhile isDigit, [], (exponent (chars.dropWhile isDigit)).1⟩,
        (exponent (chars.dropWhile isDigit)).2) := by
  unfold parts?
  cases hwhole : chars.takeWhile isDigit <;> cases hafter : chars.dropWhile isDigit <;>
    simp_all

/-- A numeral is read alike before anything that stands apart. -/
theorem parts?_append {rest : List Char} (h : Apart rest) (chars : List Char) :
    parts? (chars ++ rest) = (parts? chars).map fun (parts, after) => (parts, after ++ rest) := by
  have hwhole := takeWhile_append h.undigited chars
  have hafter := dropWhile_append h.undigited chars
  by_cases hpoint : ∃ after, chars.dropWhile isDigit = '.' :: after
  · obtain ⟨after, hpoint⟩ := hpoint
    rw [hpoint, List.cons_append] at hafter
    rw [parts?_point hafter, parts?_point hpoint, hwhole, takeWhile_append h.undigited,
      dropWhile_append h.undigited, exponent_append h]
    split_ifs <;> rfl
  · have hplain : (chars.dropWhile isDigit).head? ≠ some '.' := by
      simpa [List.head?_eq_some_iff] using hpoint
    have hplain' : ((chars ++ rest).dropWhile isDigit).head? ≠ some '.' := by
      rw [hafter]
      cases hdrop : chars.dropWhile isDigit with
      | cons c after => simpa [hdrop] using hplain
      | nil =>
        intro hrest
        exact absurd (h '.' (by simpa using hrest)) (by decide)
    rw [parts?_plain hplain', parts?_plain hplain, hwhole, hafter, exponent_append h]
    split_ifs <;> rfl

theorem dropWhile_takeWhile_digits (chars : List Char) :
    (chars.takeWhile isDigit).dropWhile isDigit = [] :=
  List.dropWhile_eq_nil_iff.mpr fun _ hc => List.mem_takeWhile_imp hc

/-- What a sign and the digits after it are read from. -/
theorem sign_used (chars : List Char) (h : (sign chars).2.takeWhile isDigit ≠ []) :
    ∃ used, chars = used ++ (sign chars).2.dropWhile isDigit ∧
      sign used = ((sign chars).1, (sign chars).2.takeWhile isDigit) := by
  cases chars with
  | nil => simp [sign] at h
  | cons c digits =>
    rw [sign_cons] at h ⊢
    by_cases hminus : c = '-'
    · exact ⟨c :: digits.takeWhile isDigit, by simp [hminus], by simp [hminus, sign]⟩
    · by_cases hplus : c = '+'
      · exact ⟨c :: digits.takeWhile isDigit, by simp [hplus], by simp [hplus, sign]⟩
      · have hc : isDigit c = true := by
          by_contra hc
          simp [hminus, hplus, hc] at h
        exact ⟨c :: digits.takeWhile isDigit, by simp [hminus, hplus, hc],
          by simp [sign_cons, hminus, hplus, hc]⟩

/-- What an exponent is read from is an exponent by itself. -/
theorem exponent_used (chars : List Char) :
    ∃ used, chars = used ++ (exponent chars).2 ∧ exponent used = ((exponent chars).1, []) := by
  cases chars with
  | nil => exact ⟨[], rfl, rfl⟩
  | cons letter rest =>
    by_cases hletter : letter = 'e' ∨ letter = 'E'
    · by_cases hrun : (sign rest).2.takeWhile isDigit = []
      · exact ⟨[], by simp [exponent, hletter, hrun], by simp [exponent, hletter, hrun]⟩
      · obtain ⟨used, hused, hsign⟩ := sign_used rest hrun
        refine ⟨letter :: used, ?_, ?_⟩
        · simp [exponent, hletter, hrun, ← hused]
        · simp [exponent, hletter, hrun, hsign, List.takeWhile_idem,
            dropWhile_takeWhile_digits]
    · exact ⟨[], by simp [exponent, hletter], by simp [exponent, hletter]⟩

/-- An exponent that is read to its end starts with its letter, if it is not left out. -/
theorem not_isDigit_of_exponent {chars : List Char} {n : Int} (h : exponent chars = (n, []))
    {c : Char} (hc : c ∈ chars.head?) : isDigit c = false ∧ c ≠ '.' := by
  cases chars with
  | nil => simp at hc
  | cons letter rest =>
    obtain rfl : letter = c := by simpa using hc
    by_cases hletter : letter = 'e' ∨ letter = 'E'
    · obtain rfl | rfl := hletter <;> decide
    · simp [exponent, hletter] at h

/-- A run of digits ends where no digit follows. -/
theorem takeWhile_digits {digits : List Char} (hdigits : ∀ c ∈ digits, isDigit c = true)
    (rest : List Char) (hrest : ∀ c ∈ rest.head?, isDigit c = false) :
    (digits ++ rest).takeWhile isDigit = digits ∧ (digits ++ rest).dropWhile isDigit = rest := by
  rw [List.takeWhile_append_of_pos hdigits, List.dropWhile_append_of_pos hdigits]
  cases rest with
  | nil => simp
  | cons c rest => simp [hrest c rfl]

/-- What a numeral is read from is a numeral by itself. -/
theorem parts?_used {chars after : List Char} {parts : Numeral.Parts}
    (h : parts? chars = some (parts, after)) :
    ∃ used, chars = used ++ after ∧ parts? used = some (parts, []) := by
  have hdigits : ∀ chars : List Char, ∀ c ∈ chars.takeWhile isDigit, isDigit c = true :=
    fun chars c hc => List.mem_takeWhile_imp hc
  have hsplit := List.takeWhile_append_dropWhile (p := isDigit) (l := chars)
  by_cases hpoint : ∃ fraction, chars.dropWhile isDigit = '.' :: fraction
  · obtain ⟨fraction, hpoint⟩ := hpoint
    rw [parts?_point hpoint] at h
    split_ifs at h with hnone
    obtain ⟨used, hused, hexponent⟩ := exponent_used (fraction.dropWhile isDigit)
    have hfraction := takeWhile_digits (hdigits fraction) used
      (fun c hc => (not_isDigit_of_exponent hexponent hc).1)
    have hwhole := takeWhile_digits (hdigits chars) ('.' :: (fraction.takeWhile isDigit ++ used))
      (by simp +decide)
    have hparts := parts?_point hwhole.2
    rw [hfraction.1, hfraction.2, hexponent, hwhole.1, if_neg hnone] at hparts
    cases h
    refine ⟨chars.takeWhile isDigit ++ '.' :: (fraction.takeWhile isDigit ++ used), ?_, hparts⟩
    rw [List.append_assoc, List.cons_append, List.append_assoc, ← hused,
      List.takeWhile_append_dropWhile, ← hpoint, hsplit]
  · have hplain : (chars.dropWhile isDigit).head? ≠ some '.' := by
      simpa [List.head?_eq_some_iff] using hpoint
    rw [parts?_plain hplain] at h
    split_ifs at h with hnone
    obtain ⟨used, hused, hexponent⟩ := exponent_used (chars.dropWhile isDigit)
    have hwhole := takeWhile_digits (hdigits chars) used
      (fun c hc => (not_isDigit_of_exponent hexponent hc).1)
    have hhead : ((chars.takeWhile isDigit ++ used).dropWhile isDigit).head? ≠ some '.' := by
      rw [hwhole.2]
      exact fun hhead => (not_isDigit_of_exponent hexponent hhead).2 rfl
    have hparts := parts?_plain hhead
    rw [hwhole.1, hwhole.2, hexponent, if_neg hnone] at hparts
    cases h
    refine ⟨chars.takeWhile isDigit ++ used, ?_, hparts⟩
    rw [List.append_assoc, ← hused, hsplit]

/-- A numeral has the same length before anything that stands apart. -/
theorem numeralLength?_append {rest : List Char} (h : Apart rest) (chars : List Char) :
    numeralLength? (chars ++ rest) = numeralLength? chars := by
  unfold numeralLength?
  rw [parts?_append h]
  cases parts? chars <;> simp [Nat.add_sub_add_right]

/-- The characters of a numeral are a numeral of that length. -/
theorem numeralLength?_take {chars : List Char} {n : Nat} (h : numeralLength? chars = some n) :
    n ≤ chars.length ∧ numeralLength? (chars.take n) = some n := by
  obtain ⟨⟨parts, after⟩, hparts, rfl⟩ := Option.map_eq_some_iff.mp h
  obtain ⟨used, rfl, hused⟩ := parts?_used hparts
  simp [numeralLength?, hused]

/-- A numeral starts with a digit or a point. -/
theorem numeralLength?_eq_none {c : Char} (hdigit : isDigit c = false) (hpoint : c ≠ '.')
    (rest : List Char) : numeralLength? (c :: rest) = none := by
  have hparts : parts? (c :: rest) = none := by
    rw [parts?_plain (by simpa [hdigit] using hpoint)]
    simp [hdigit]
  simp [numeralLength?, hparts]

/-! ## Quoted texts and comments -/

theorem quotedLength?_cons {quote c : Char} (hc : c ≠ '\\') (chars : List Char) :
    quotedLength? quote (c :: chars) =
      if c = quote then some 1
      else if c = '\n' then none
      else (quotedLength? quote chars).map (· + 1) := by
  rw [quotedLength?] <;> simp_all

/-- A quoted text is closed by its own characters, so it does not matter what follows. -/
theorem quotedLength?_take {quote : Char} {chars : List Char} {n : Nat}
    (h : quotedLength? quote chars = some n) (rest : List Char) :
    n ≤ chars.length ∧ quotedLength? quote (chars.take n ++ rest) = some n := by
  fun_induction quotedLength? quote chars generalizing n with
  | case1 | case2 => cases h
  | case3 c chars ih =>
    obtain ⟨m, hm, rfl⟩ := Option.map_eq_some_iff.mp h
    obtain ⟨hle, hm⟩ := ih hm
    simpa [quotedLength?, hm] using hle
  | case4 chars hescape hescape' =>
    have hquote : quote ≠ '\\' := by
      rintro rfl
      cases chars <;> simp at hescape hescape'
    cases h
    simp [quotedLength?_cons hquote]
  | case5 => cases h
  | case6 c chars hescape hescape' hquote hline ih =>
    have hc : c ≠ '\\' := by
      rintro rfl
      cases chars <;> simp at hescape hescape'
    obtain ⟨m, hm, rfl⟩ := Option.map_eq_some_iff.mp h
    obtain ⟨hle, hm⟩ := ih hm
    simpa [quotedLength?_cons hc, hquote, hline, hm] using hle

theorem blockCommentLength?_cons {c : Char} {chars : List Char}
    (h : ¬ (c = '*' ∧ chars.head? = some '/')) :
    blockCommentLength? (c :: chars) = (blockCommentLength? chars).map (· + 1) := by
  rw [blockCommentLength?]
  rintro tail rfl rfl
  simp at h

/-- A block comment is closed by its own characters. -/
theorem blockCommentLength?_append {chars : List Char} {n : Nat}
    (h : blockCommentLength? chars = some n) (rest : List Char) :
    n ≤ chars.length ∧ blockCommentLength? (chars ++ rest) = some n := by
  fun_induction blockCommentLength? chars generalizing n with
  | case1 => cases h
  | case2 chars =>
    cases h
    simp [blockCommentLength?]
  | case3 c chars hopen ih =>
    obtain ⟨m, hm, rfl⟩ := Option.map_eq_some_iff.mp h
    obtain ⟨hle, hm⟩ := ih hm
    have hclose : ¬ (c = '*' ∧ (chars ++ rest).head? = some '/') := by
      rintro ⟨rfl, hhead⟩
      cases chars with
      | nil => cases h
      | cons d chars => exact hopen chars rfl (by simpa using hhead)
    simpa [blockCommentLength?_cons hclose, hm] using hle

/-- A comment starts with a slash or a star after its first slash. -/
theorem commentLength?_eq_none {chars : List Char}
    (h : ∀ c ∈ chars.head?, c ≠ '/' ∧ c ≠ '*') : commentLength? chars = none := by
  unfold commentLength?
  split <;> simp_all

/-! ## Operators -/

/-- The characters that operators start with. -/
def operatorStarts : List Char :=
  '&' :: '|' :: shortOperators

/-- No operator has white space in it, so one is found in front of what stands apart exactly if it
is found without. -/
theorem isPrefixOf_append {op : List Char} (hop : ∀ c ∈ op, isWhite c = false) {rest : List Char}
    (h : Apart rest) (chars : List Char) : op.isPrefixOf (chars ++ rest) = op.isPrefixOf chars := by
  induction op generalizing chars with
  | nil => simp
  | cons c op ih =>
    have hc : isWhite c = false := hop c (List.mem_cons_self ..)
    cases chars with
    | cons d chars =>
      simp only [List.cons_append, List.isPrefixOf_cons_cons]
      rw [ih (fun c hc => hop c (List.mem_cons_of_mem _ hc))]
    | nil =>
      cases rest with
      | nil => rfl
      | cons d rest =>
        have hne : c ≠ d := by
          rintro rfl
          exact absurd (apart_cons.mp h) (by simp [hc])
        simp [List.isPrefixOf_cons_cons, hne]

/-- What may follow an optional dot. -/
theorem head?_drop_append {rest : List Char} (h : Apart rest) {chars : List Char}
    (hdot : "?.".toList.isPrefixOf chars = true) :
    (((chars ++ rest).drop 2).head?.map isDigit).getD false =
      ((chars.drop 2).head?.map isDigit).getD false := by
  obtain ⟨after, rfl⟩ := List.isPrefixOf_iff_prefix.mp hdot
  have hdrop (others : List Char) : ("?.".toList ++ others).drop 2 = others := rfl
  rw [List.append_assoc, hdrop, hdrop]
  cases after with
  | cons c after => rfl
  | nil =>
    cases rest with
    | nil => rfl
    | cons c rest => simp [h.undigited c rfl]

/-- An operator has the same length before anything that stands apart. -/
theorem operatorLength?_append {rest : List Char} (h : Apart rest) (chars : List Char) :
    operatorLength? (chars ++ rest) = operatorLength? chars := by
  have hlong : ∀ op ∈ longOperators, ∀ c ∈ op.toList, isWhite c = false := by
    have hall : (longOperators.all fun op => op.toList.all fun c => !isWhite c) = true := by
      decide
    simpa only [List.all_eq_true, Bool.not_eq_true'] using hall
  have hfind : (longOperators.find? fun op => op.toList.isPrefixOf (chars ++ rest) &&
        !(op == "?." && (((chars ++ rest).drop 2).head?.map isDigit).getD false)) =
      longOperators.find? fun op => op.toList.isPrefixOf chars &&
        !(op == "?." && ((chars.drop 2).head?.map isDigit).getD false) := by
    refine List.find?_congr fun op hop => ?_
    rw [isPrefixOf_append (hlong op hop) h]
    by_cases hdot : op = "?." ∧ op.toList.isPrefixOf chars = true
    · obtain ⟨rfl, hdot⟩ := hdot
      rw [head?_drop_append h hdot]
    · cases hmatches : op.toList.isPrefixOf chars
      · rfl
      · have hne : (op == "?.") = false := beq_eq_false_iff_ne.mpr fun heq => hdot ⟨heq, hmatches⟩
        rw [hne, Bool.false_and, Bool.false_and]
  unfold operatorLength?
  rw [hfind]
  cases chars with
  | cons c chars =>
    generalize longOperators.find? _ = found
    cases found <;> rfl
  | nil =>
    cases rest with
    | nil => rfl
    | cons c rest =>
      obtain rfl | rfl | rfl | rfl := isWhite_cases (apart_cons.mp h) <;> rfl

/-- The operators, as characters. -/
def operatorChars : List (List Char) :=
  longOperators.map String.toList ++ shortOperators.map fun c => [c]

/-- What is found as an operator is one. -/
theorem operatorLength?_eq_some {chars : List Char} {n : Nat} (h : operatorLength? chars = some n) :
    ∃ op ∈ operatorChars, n = op.length ∧ op <+: chars := by
  unfold operatorLength? at h
  dsimp only at h
  split at h
  · rename_i op hfind
    have hop := List.find?_some hfind
    simp only [Bool.and_eq_true] at hop
    have hmem : op.toList ∈ longOperators.map String.toList :=
      List.mem_map_of_mem (List.mem_of_find?_eq_some hfind)
    have hlength : n = op.toList.length := by rw [String.length_toList, ← Option.some.inj h]
    exact ⟨op.toList, List.mem_append_left _ hmem, hlength, List.isPrefixOf_iff_prefix.mp hop.1⟩
  · split at h
    · rename_i c rest _ hshort
      have hmem : [c] ∈ shortOperators.map fun c => [c] :=
        List.mem_map_of_mem (by simpa using hshort)
      exact ⟨[c], List.mem_append_right _ hmem, by simpa using h.symm, by simp⟩
    · cases h
  · cases h

/-- The characters of an operator are an operator of that length. -/
theorem operatorLength?_take {chars : List Char} {n : Nat} (h : operatorLength? chars = some n) :
    chars.take n ∈ operatorChars ∧ 0 < n ∧ n ≤ chars.length ∧
      operatorLength? (chars.take n) = some n := by
  have hlength : ∀ op ∈ operatorChars, 0 < op.length ∧ operatorLength? op = some op.length := by
    decide
  obtain ⟨op, hop, rfl, after, rfl⟩ := operatorLength?_eq_some h
  rw [List.take_left]
  exact ⟨hop, (hlength op hop).1, by simp, (hlength op hop).2⟩

/-- An operator starts with one of their starts. -/
theorem operatorLength?_eq_none {c : Char} (hc : c ∉ operatorStarts) (rest : List Char) :
    operatorLength? (c :: rest) = none := by
  have hstarts : ∀ op ∈ operatorChars, ∀ d ∈ op.head?, d ∈ operatorStarts := by
    have hall : (operatorChars.all fun op => op.head?.all operatorStarts.contains) = true := by
      decide
    simpa only [List.all_eq_true, Option.all_eq_true, List.contains_iff_mem, Option.mem_def]
      using hall
  by_contra hsome
  obtain ⟨n, hn⟩ := Option.ne_none_iff_exists'.mp hsome
  obtain ⟨hop, hpos, -⟩ := operatorLength?_take hn
  obtain ⟨m, rfl⟩ := Nat.exists_eq_succ_of_ne_zero hpos.ne'
  exact hc (hstarts _ hop c rfl)

/-- No operator starts a numeral or a comment. -/
theorem operator_unread {op : List Char} (h : op ∈ operatorChars) :
    numeralLength? op = none ∧
      (op.head? = some '/' → ∀ c ∈ op.tail.head?, c ≠ '/' ∧ c ≠ '*') := by
  have hnumber : ∀ op ∈ operatorChars, numeralLength? op = none := by decide
  have hslash : ∀ op ∈ operatorChars, op.head? = some '/' →
      op.tail.head? ≠ some '/' ∧ op.tail.head? ≠ some '*' := by decide
  refine ⟨hnumber op h, fun hhead c hc => ?_⟩
  constructor <;> rintro rfl
  · exact (hslash op h hhead).1 hc
  · exact (hslash op h hhead).2 hc

/-! ## Words -/

/-- No other piece than a word starts with a character that words start with. -/
theorem startsWord_only {c : Char} (h : startsWord c = true) :
    c ∉ operatorStarts ∧ c ≠ '"' ∧ c ≠ '\'' ∧ isWhite c = false := by
  have hnot : (('"' :: '\'' :: ' ' :: '\t' :: '\r' :: '\n' :: operatorStarts).all
      fun d => !startsWord d) = true := by decide
  have hc : c ∉ '"' :: '\'' :: ' ' :: '\t' :: '\r' :: '\n' :: operatorStarts :=
    fun hmem => absurd h (by simpa using List.all_eq_true.mp hnot c hmem)
  simp only [List.mem_cons, not_or] at hc
  obtain ⟨hquote, hquote', hspace, htab, hreturn, hline, hstart⟩ := hc
  refine ⟨by simpa only [operatorStarts, List.mem_cons, not_or] using hstart, hquote, hquote', ?_⟩
  simp [isWhite, isLineBlank, hspace, htab, hreturn, hline]

theorem isDigit_of_startsWord {c : Char} (h : startsWord c = true) : isDigit c = false := by
  have hc : c.toNat = 0x24 ∨ 0x41 ≤ c.toNat ∧ c.toNat < 0x80 := by
    simp only [startsWord, Bool.or_eq_true, Bool.and_eq_true, decide_eq_true_eq,
      Char.le_def, UInt32.le_iff_toNat_le] at h
    obtain ((h | h) | rfl) | rfl := h
    · have h₁ : 97 ≤ c.toNat := h.1
      have h₂ : c.toNat ≤ 122 := h.2
      omega
    · have h₁ : 65 ≤ c.toNat := h.1
      have h₂ : c.toNat ≤ 90 := h.2
      omega
    · decide
    · decide
  simp only [isDigit, Text.digit?]
  rw [if_pos (by omega), if_neg (by omega)]
  rfl

end Canvasflow.Program
