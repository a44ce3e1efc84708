import Canvasflow.Program.Interpreter
import Canvasflow.Proofs.Number.Arithmetic
import Canvasflow.Proofs.Program.NumberTexts
import Canvasflow.Proofs.Program.Steps

/-!
# Numerals as keys

A numeral may be a key of a record literal, and it may be an index. As a key it names a property by
its own text, if that is all digits, and else by the plain form of its double; as an index it names
the property that the double is written as in programs. `numeric_keys` says for which numerals these
are the same name, and which numerals of one double are the same key.
-/

namespace Canvasflow

open Double Text

variable {x : Float} {n : ℤ}

/-! ## Texts of whole numbers -/

/-- Whether a text has a character that the text of no integer has. -/
def Marked (text : String) : Prop :=
  ∃ c ∈ text.toList, isDigit c = false ∧ c ≠ '-'

theorem not_marked_toString (n : ℤ) : ¬Marked (toString n) := by
  rintro ⟨c, hc, hdigit, hsign⟩
  rw [Program.Value.toString_eq_ofList, String.toList_ofList] at hc
  have hmem : c ∈ Nat.toDigits 10 n.natAbs := by
    split at hc
    · exact (List.mem_cons.mp hc).resolve_left hsign
    · exact hc
  rw [(Numeral.digits_toDigits n.natAbs).isDigit c hmem] at hdigit
  cases hdigit

theorem not_marked_of_all {text : String} (h : text.toList.all isDigit = true) : ¬Marked text := by
  rintro ⟨c, hc, hdigit, -⟩
  rw [List.all_eq_true.mp h c hc] at hdigit
  cases hdigit

/-- Only an integer that is not negative is all digits. -/
theorem nonneg_of_all {n : ℤ} (h : (toString n).toList.all isDigit = true) : 0 ≤ n := by
  by_contra hneg
  rw [Program.Value.toString_eq_ofList, if_pos (by simpa using hneg), String.toList_ofList] at h
  exact absurd (List.all_eq_true.mp h '-' List.mem_cons_self) (by decide)

/-- A decimal is written with a point or with an exponent. -/
theorem mark_mem_write (layout : Layout) (decimal : Decimal) :
    '.' ∈ layout.write decimal ∨ 'e' ∈ layout.write decimal := by
  unfold Layout.write
  dsimp only
  split_ifs <;> simp

/-- The plain form of a double is never that of an integer. -/
theorem marked_plain (x : Float) : Marked (plain x) := by
  unfold plain
  cases view x with
  | notANumber => exact ⟨'n', by decide⟩
  | infinite negative => cases negative <;> exact ⟨'n', by decide⟩
  | finite negative m e =>
    have hmark : ∃ c ∈ (if m = 0 then ['0', '.', '0'] else plainLayout.write (shortest m e)),
        isDigit c = false ∧ c ≠ '-' := by
      split_ifs
      · exact ⟨'.', by decide⟩
      · rcases mark_mem_write plainLayout (shortest m e) with hmem | hmem
        · exact ⟨'.', hmem, by decide⟩
        · exact ⟨'e', hmem, by decide⟩
    obtain ⟨c, hc, hmarked⟩ := hmark
    refine ⟨c, ?_, hmarked⟩
    dsimp only
    rw [String.toList_ofList]
    cases negative with
    | false => exact hc
    | true => exact List.mem_cons_of_mem _ hc

theorem plain_of_not_finite (h : x.isFinite = false) : plain x ∈ ["nan", "inf", "-inf"] := by
  unfold plain
  cases hview : view x with
  | notANumber => exact List.mem_cons_self
  | infinite negative => cases negative <;> simp
  | finite negative m e =>
    rw [(isFinite_iff x).mpr ⟨negative, m, e, hview⟩] at h
    cases h

/-! ## Texts of doubles -/

/-- The ways in which programs write doubles. -/
inductive WrittenAs (x : Float) : String → Prop
  | whole {n : ℤ} (h : StandsFor x n) (hsmall : n.natAbs < 10 ^ 21) : WrittenAs x (toString n)
  | plain (h : x.isFinite = true) (hlarge : ∀ n : ℤ, StandsFor x n → 10 ^ 21 ≤ n.natAbs) :
      WrittenAs x (plain x)
  | word {text : String} (h : x.isFinite = false)
      (hword : text ∈ ["NaN", "Infinity", "-Infinity"]) : WrittenAs x text

theorem standsFor_unique {m : ℤ} (h : StandsFor x m) (h' : StandsFor x n) : m = n := by
  exact_mod_cast h.2.symm.trans h'.2

theorem writtenAs_doubleText (x : Float) : WrittenAs x (Number.doubleText x) := by
  have hinfinite (h : ∀ negative m e, view x ≠ .finite negative m e) : x.isFinite = false := by
    rw [← Bool.not_eq_true, isFinite_iff]
    rintro ⟨negative, m, e, hview⟩
    exact h negative m e hview
  unfold Number.doubleText
  cases hview : view x with
  | notANumber => exact .word (hinfinite (by simp [hview])) List.mem_cons_self
  | infinite negative =>
    refine .word (hinfinite (by simp [hview])) ?_
    cases negative <;> simp
  | finite negative m e =>
    have hfinite : x.isFinite = true := (isFinite_iff x).mpr ⟨negative, m, e, hview⟩
    dsimp only
    cases hwhole : Number.whole? (.double x) with
    | none =>
      refine .plain hfinite fun n hn => ?_
      rw [Program.Value.whole?_eq_some_iff.mpr hn] at hwhole
      cases hwhole
    | some n =>
      have hn := Program.Value.whole?_eq_some_iff.mp hwhole
      dsimp only
      split_ifs with hsmall
      · exact .whole hn hsmall
      · exact .plain hfinite fun m hm => standsFor_unique hn hm ▸ Nat.not_lt.mp hsmall

namespace WrittenAs

variable {text : String}

theorem eq_toString (h : WrittenAs x text) (hn : StandsFor x n) (hsmall : n.natAbs < 10 ^ 21) :
    text = toString n := by
  cases h with
  | whole h => rw [standsFor_unique h hn]
  | plain _ hlarge => exact absurd (hlarge n hn) (Nat.not_le.mpr hsmall)
  | word hfinite =>
    rw [hn.1] at hfinite
    cases hfinite

theorem eq_plain (h : WrittenAs x text) (hfinite : x.isFinite = true)
    (hlarge : ∀ n : ℤ, StandsFor x n → 10 ^ 21 ≤ n.natAbs) : text = Double.plain x := by
  cases h with
  | whole h hsmall => exact absurd (hlarge _ h) (Nat.not_le.mpr hsmall)
  | plain => rfl
  | word h =>
    rw [hfinite] at h
    cases h

/-- Only whole numbers are written with digits alone. -/
theorem whole_of_all (h : WrittenAs x text) (hdigits : text.toList.all isDigit = true) :
    ∃ n : ℕ, n < 10 ^ 21 ∧ text = toString n ∧ StandsFor x n := by
  cases h with
  | @whole n h hsmall =>
    obtain ⟨n, rfl⟩ := Int.eq_ofNat_of_zero_le (nonneg_of_all hdigits)
    exact ⟨n, hsmall, rfl, h⟩
  | plain => exact absurd (marked_plain x) (not_marked_of_all hdigits)
  | word _ hword =>
    have hnone : ∀ word ∈ ["NaN", "Infinity", "-Infinity"], word.toList.all isDigit = false := by
      decide
    rw [hnone text hword] at hdigits
    cases hdigits

/-- The words are not those of the plain form. -/
theorem large_of_plain (h : WrittenAs x (Double.plain x)) :
    x.isFinite = true ∧ ∀ n : ℤ, StandsFor x n → 10 ^ 21 ≤ n.natAbs := by
  generalize htext : Double.plain x = text at h
  cases h with
  | whole => exact absurd (htext ▸ marked_plain x) (not_marked_toString _)
  | plain hfinite hlarge => exact ⟨hfinite, hlarge⟩
  | word hfinite hword =>
    have hnone : ∀ word ∈ ["nan", "inf", "-inf"], word ∉ ["NaN", "Infinity", "-Infinity"] := by
      decide
    exact absurd hword (hnone _ (htext ▸ plain_of_not_finite hfinite))

end WrittenAs

namespace Program

open Reader

/-! ## Names of properties -/

/-- The name that a numeral gives to a property as a key. -/
def numeralKey (numeral : String) : String :=
  keyOf ⟨.number, numeral, .start⟩

/-- Whether a numeral names the same property as a key and as an index. One that is all digits has
to be the text of an integer below 10 ^ 21 that is a double, and any other one has to be a double
that is finite and no such integer. -/
def KeyAsIndex (numeral : String) : Prop :=
  if numeral.toList.all isDigit then ∃ n : ℕ, n < 10 ^ 21 ∧ numeral = toString n ∧ Representable n
  else (numeralValue numeral).isFinite = true ∧
    ∀ n : ℤ, StandsFor (numeralValue numeral) n → 10 ^ 21 ≤ n.natAbs

variable {numeral other : String}

theorem numeralKey_digits (h : numeral.toList.all isDigit = true) : numeralKey numeral = numeral :=
  if_pos h

theorem numeralKey_marked (h : ¬numeral.toList.all isDigit = true) :
    numeralKey numeral = plain (numeralValue numeral) :=
  if_neg h

/-- The text of an integer that is a double is a numeral for it. -/
theorem standsFor_numeralValue {n : ℕ} (h : Representable n) :
    StandsFor (numeralValue (toString n)) n := by
  obtain ⟨x, hx, hrounds⟩ := Numeral.decimal?_of_spells (Numeral.spells_toDigits n) false
  have hvalue : numeralValue (toString n) = x := by
    rw [numeralValue, show toString n = String.ofList (Nat.toDigits 10 n) from
      Nat.repr_eq_ofList_toDigits, String.toList_ofList]
    exact congrArg (fun x => x.getD notANumber) hx
  rw [hvalue]
  exact RoundsTo.exact hrounds h

theorem numeralKey_eq_iff :
    numeralKey numeral = Number.doubleText (numeralValue numeral) ↔ KeyAsIndex numeral := by
  have hwritten := writtenAs_doubleText (numeralValue numeral)
  unfold KeyAsIndex
  split_ifs with hdigits
  · rw [numeralKey_digits hdigits]
    constructor
    · intro hname
      rw [← hname] at hwritten
      obtain ⟨n, hsmall, hnumeral, hn⟩ := hwritten.whole_of_all hdigits
      exact ⟨n, hsmall, hnumeral, _, hn⟩
    · rintro ⟨n, hsmall, rfl, hn⟩
      have hvalue : StandsFor (numeralValue (toString n)) (n : ℤ) := standsFor_numeralValue hn
      exact (hwritten.eq_toString hvalue hsmall).symm
  · rw [numeralKey_marked hdigits]
    constructor
    · intro hname
      rw [← hname] at hwritten
      exact hwritten.large_of_plain
    · rintro ⟨hfinite, hlarge⟩
      exact (hwritten.eq_plain hfinite hlarge).symm

instance (numeral : String) : Decidable (KeyAsIndex numeral) :=
  decidable_of_iff _ numeralKey_eq_iff

/-- Numerals of one double are the same key if they are the same text, or if neither is all digits.
-/
theorem numeralKey_eq_numeralKey_iff (h : numeralValue numeral = numeralValue other) :
    numeralKey numeral = numeralKey other ↔ numeral = other ∨
      ¬numeral.toList.all isDigit = true ∧ ¬other.toList.all isDigit = true := by
  have hmixed {digits marked : String} (hdigits : digits.toList.all isDigit = true)
      (hmarked : ¬marked.toList.all isDigit = true) : numeralKey digits ≠ numeralKey marked := by
    rw [numeralKey_digits hdigits, numeralKey_marked hmarked]
    intro hname
    exact not_marked_of_all hdigits (hname ▸ marked_plain _)
  by_cases hdigits : numeral.toList.all isDigit = true <;>
    by_cases hdigits' : other.toList.all isDigit = true
  · simp [numeralKey_digits, hdigits, hdigits']
  · have hne : numeral ≠ other := by
      rintro rfl
      exact hdigits' hdigits
    simp [hmixed hdigits hdigits', hne, hdigits]
  · have hne : numeral ≠ other := by
      rintro rfl
      exact hdigits hdigits'
    simp [(hmixed hdigits' hdigits).symm, hne, hdigits']
  · simp [numeralKey_marked, hdigits, hdigits', h]

/-! ## A record that is indexed at once -/

/-- The expression `(\x7b numeral: value \x7d)[numeral]`. -/
def keyed (numeral : String) (value : Expr) : Expr :=
  .read (.index (.object [.pair (numeralKey numeral) value])
    (.literal (.num (numeralValue numeral))) false)

/-- What follows the value in the tokens of that expression, at any places. -/
def keyedEnd (numeral : String) (place : Nat → Position) (rest : List Token) : List Token :=
  ⟨.op, "\x7d", place 4⟩ :: ⟨.op, ")", place 5⟩ :: ⟨.op, "[", place 6⟩ ::
    ⟨.number, numeral, place 7⟩ :: ⟨.op, "]", place 8⟩ :: rest

/-- The tokens of that expression from its record on. -/
def recordTokens (numeral : String) (place : Nat → Position) (value rest : List Token) :
    List Token :=
  ⟨.op, "\x7b", place 1⟩ :: ⟨.number, numeral, place 2⟩ :: ⟨.op, ":", place 3⟩ ::
    (value ++ keyedEnd numeral place rest)

/-- The tokens of that expression. -/
def keyedTokens (numeral : String) (place : Nat → Position) (value rest : List Token) :
    List Token :=
  ⟨.op, "(", place 0⟩ :: recordTokens numeral place value rest

section Reading

variable {room : Nat} {value rest : List Token} {place : Nat → Position} {v : Expr}

theorem run_entry_numeral {item : Reader Expr} {position colon : Position} :
    (entry item).run (⟨.number, numeral, position⟩ :: ⟨.op, ":", colon⟩ :: rest) =
      (do return .pair (numeralKey numeral) (← item) : Reader Entry).run rest := rfl

theorem run_recordTokens (h : (expression room).run (value ++ keyedEnd numeral place rest) =
      .ok (v, keyedEnd numeral place rest)) :
    (expression (room + 3)).run (recordTokens numeral place value rest) =
      .ok (.object [.pair (numeralKey numeral) v], (keyedEnd numeral place rest).tail) := by
  have hentries : (separated (entry (expression room)) "\x7d"
      ((value ++ keyedEnd numeral place rest).length + 3)).run
        (recordTokens numeral place value rest).tail =
      .ok ([.pair (numeralKey numeral) v], (keyedEnd numeral place rest).tail) :=
    run_separated_last (by decide) rfl (run_entry_numeral.trans ((run_bind_ok h).trans rfl))
  have hprimary : (primary (expression room)).run (recordTokens numeral place value rest) =
      .ok (.object [.pair (numeralKey numeral) v], (keyedEnd numeral place rest).tail) := by
    refine run_primary_object.trans ?_
    rw [entriesFrom_eq]
    exact (run_bind_ok hentries).trans rfl
  exact run_levelReader_of_le (Nat.zero_le 13)
    (fun _ => .of_none (by decide) (by decide)) hprimary (.of_none (by decide))

theorem run_bracketIndex_numeral {position close : Position} :
    (bracketIndex (expression (room + 3))).run
        (⟨.number, numeral, position⟩ :: ⟨.op, "]", close⟩ :: rest) =
      .ok (.literal (.num (numeralValue numeral)), rest) := by
  have hindex : (expression (room + 3)).run
      (⟨.number, numeral, position⟩ :: ⟨.op, "]", close⟩ :: rest) =
      .ok (.literal (.num (numeralValue numeral)), ⟨.op, "]", close⟩ :: rest) :=
    run_levelReader_of_le (Nat.zero_le 13) (fun _ => nofun)
      run_primary_number (.of_none (by decide))
  exact (run_bind_ok hindex).trans rfl

theorem run_keyedTokens (h : (expression room).run (value ++ keyedEnd numeral place rest) =
      .ok (v, keyedEnd numeral place rest)) (hrest : Stops 1 rest) :
    (expression (room + 6)).run (keyedTokens numeral place value rest) =
      .ok (keyed numeral v, rest) := by
  have hprimary : (primary (expression (room + 3))).run (keyedTokens numeral place value rest) =
      .ok (.object [.pair (numeralKey numeral) v], (keyedEnd numeral place rest).drop 2) :=
    run_primary_enclosed.trans ((run_bind_ok (run_recordTokens h)).trans rfl)
  have haccessed : (accessed (expression (room + 3))).run (keyedTokens numeral place value rest) =
      .ok (keyed numeral v, rest) := by
    rw [accessed, run_bind_ok run_bound, run_bind_ok hprimary]
    refine run_suffixesFrom_index.trans ((run_bind_ok run_bracketIndex_numeral).trans ?_)
    exact run_suffixesFrom_stops (hrest.mono (by decide))
  exact run_levelReader_of_le (show 1 ≤ 12 by decide)
    (fun _ => .of_none (by decide) (by decide)) haccessed hrest

end Reading

/-- A number names a field of a record by its text. -/
theorem getIndex_record (heap : Heap) (stamp place : Nat) (x : Float) :
    getIndex heap stamp (.record place) (.num (.double x)) =
      .ok ((Entries.find? (Number.doubleText x) (heap.fields place)).getD .null) := by
  have htext : (Value.num (.double x)).text heap = .ok (Number.doubleText x) :=
    Value.text_eq_ok.mpr rfl
  exact (congrArg (fun name => name >>= getMember heap stamp (.record place)) htext).trans rfl

theorem run_readIndex (value key : Value) (machine : Machine) :
    (Run.readIndex value key).run machine =
      (Run.ofExcept (getIndex machine.heap machine.stamps value key)).run
        { machine with stamps := machine.stamps + 1 } := rfl

/-- The state with a new record of one field, of which a part has been read. -/
def Machine.withField (machine : Machine) (key : String) (value : Value) : Machine :=
  { machine with
    heap := (machine.heap.alloc (.record [(key, value)])).2
    stamps := machine.stamps + 1 }

theorem evaluate_keyed (context : Context) (v : Expr) (room : Nat) (machine : Machine) :
    (evaluate context (keyed numeral v) (room + 3)).run machine =
      match (evaluate context v (room + 1)).run machine with
      | (.ok value, after) =>
        (.ok (if KeyAsIndex numeral then value else .null),
          after.withField (numeralKey numeral) value)
      | (.error stop, after) => (.error stop, after) := by
  have hobject :
      (evaluate context (.object [.pair (numeralKey numeral) v]) (room + 2)).run machine =
      match (evaluate context v (room + 1)).run machine with
      | (.ok value, after) => (.ok (.record after.heap.cells.size),
          { after with heap := (after.heap.alloc (.record [(numeralKey numeral, value)])).2 })
      | (.error stop, after) => (.error stop, after) := by
    rw [evaluate, evaluateEntries, evaluateEntry, bind_assoc, bind_assoc, Stateful.run_bind]
    rcases (evaluate context v (room + 1)).run machine with ⟨_ | value, after⟩ <;> rfl
  rw [keyed, evaluate, readPlace, Stateful.run_bind, hobject]
  rcases (evaluate context v (room + 1)).run machine with ⟨_ | value, after⟩
  · rfl
  · have hread : (Run.readIndex (.record after.heap.cells.size)
        (.num (.double (numeralValue numeral)))).run { after with
          heap := (after.heap.alloc (.record [(numeralKey numeral, value)])).2 } =
        (.ok (if KeyAsIndex numeral then value else .null),
          after.withField (numeralKey numeral) value) := by
      rw [run_readIndex, getIndex_record]
      simp only [Heap.fields, Heap.alloc, Array.getElem?_push_size, Entries.find?,
        numeralKey_eq_iff, Machine.withField]
      split_ifs <;> rfl
    exact hread

/-- A record with a numeral as its key, indexed by the same numeral, gives the value if the numeral
names the same property both times, and null if it does not; the value is evaluated once, and what
stops it stops the whole. Two numerals of one double are the same key exactly if they are the same
text, or if neither is all digits. -/
theorem numeric_keys (numeral : String) :
    (∀ (room : Nat) (value rest : List Token) (place : Nat → Position) (v : Expr),
      (expression room).run (value ++ keyedEnd numeral place rest) =
        .ok (v, keyedEnd numeral place rest) → Stops 1 rest →
      (expression (room + 6)).run (keyedTokens numeral place value rest) =
        .ok (keyed numeral v, rest)) ∧
    (∀ (context : Context) (v : Expr) (room : Nat) (machine : Machine),
      (evaluate context (keyed numeral v) (room + 3)).run machine =
        match (evaluate context v (room + 1)).run machine with
        | (.ok value, after) =>
          (.ok (if KeyAsIndex numeral then value else .null),
            after.withField (numeralKey numeral) value)
        | (.error stop, after) => (.error stop, after)) ∧
    ∀ other, numeralValue numeral = numeralValue other →
      (numeralKey numeral = numeralKey other ↔ numeral = other ∨
        ¬numeral.toList.all isDigit = true ∧ ¬other.toList.all isDigit = true) :=
  ⟨fun _ _ _ _ _ => run_keyedTokens, evaluate_keyed, fun _ => numeralKey_eq_numeralKey_iff⟩

/-- The record `(\x7b 1.0: 5 \x7d)` has no property that the index `1.0` names, and `1.0` is not the
same key as `1`. -/
theorem numeric_keys_of_fraction :
    (expression 9).run (keyedTokens "1.0" (fun _ => .start) [⟨.number, "5", .start⟩]
      [⟨.endOfText, "", .start⟩]) =
      .ok (keyed "1.0" (.literal (.num (numeralValue "5"))), [⟨.endOfText, "", .start⟩]) ∧
    (∀ context machine,
      ((evaluate context (keyed "1.0" (.literal (.num (numeralValue "5")))) 900).run machine).1 =
        .ok .null) ∧
    numeralKey "1.0" ≠ numeralKey "1" := by
  obtain ⟨hread, heval, hkey⟩ := numeric_keys "1.0"
  have hnot : ¬KeyAsIndex "1.0" := by decide
  refine ⟨hread 3 _ _ _ _ (by rfl) nofun, fun context machine => ?_, ?_⟩
  · rw [heval context _ 897 machine, evaluate]
    exact congrArg Except.ok (if_neg hnot)
  · rw [ne_eq, hkey "1" (by decide)]
    decide

end Program

end Canvasflow
