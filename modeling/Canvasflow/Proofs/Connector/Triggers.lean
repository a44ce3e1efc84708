import Canvasflow.Connector.Trigger
import Mathlib.Data.List.TakeWhile

/-!
# The grammar of program texts

A program text is blanks, the word of a trigger, blanks, and a program that opens in a way that the
trigger allows. `classify_grammar` says that these are the texts that are classified, each in one
way, and that a trigger's word in front of the program found is classified in the same way again.
-/

namespace Canvasflow.Connector

open Canvasflow.Text Canvasflow.Program

/-- How the program of a trigger opens, and the grammar that it is written in. -/
inductive Opens : Trigger → Grammar → List Char → Prop
  | mapping (trigger : Trigger) (rest : List Char) : Opens trigger .shorthand ('\x7b' :: rest)
  | body {trigger : Trigger} (hword : trigger ≠ .change) (rest : List Char) :
      Opens trigger .expanded ('(' :: rest)
  | parameters {blanks : List Char} (hblanks : ∀ c ∈ blanks, isBlank c = true) (rest : List Char) :
      Opens .change .expanded ('(' :: (blanks ++ ')' :: rest))

/-- A text that is a program of a trigger behind the trigger's word, with blanks around the word. -/
structure Spells (trigger : Trigger) (grammar : Grammar) (program text : List Char) : Prop where
  opens : Opens trigger grammar program
  spelt : ∃ before between, (∀ c ∈ before, isBlank c = true) ∧ (∀ c ∈ between, isBlank c = true) ∧
    text = before ++ (trigger.word.toList ++ (between ++ program))

/-- A program without the blanks behind it. -/
def Trimmed (program source : List Char) : Prop :=
  (∀ c ∈ source.getLast?, isBlank c = false) ∧
    ∃ blanks, (∀ c ∈ blanks, isBlank c = true) ∧ program = source ++ blanks

theorem isBlank_of_isTriggerLetter {c : Char} (h : isTriggerLetter c = true) :
    isBlank c = false := by
  have hc : 0x41 ≤ c.toNat ∧ c.toNat < 0x80 := by
    simp only [isTriggerLetter, Bool.or_eq_true, Bool.and_eq_true, decide_eq_true_eq,
      Char.le_def, UInt32.le_iff_toNat_le] at h
    obtain (h | h) | rfl := h
    · have h₁ : 97 ≤ c.toNat := h.1
      have h₂ : c.toNat ≤ 122 := h.2
      omega
    · have h₁ : 65 ≤ c.toNat := h.1
      have h₂ : c.toNat ≤ 90 := h.2
      omega
    · decide
  simp only [isBlank, Bool.or_eq_false_iff, Bool.and_eq_false_iff, decide_eq_false_iff_not,
    beq_eq_false_iff_ne]
  omega

theorem isTriggerLetter_of_mem_word (trigger : Trigger) :
    ∀ c ∈ trigger.word.toList, isTriggerLetter c = true := by
  cases trigger <;> simp [Trigger.word, isTriggerLetter]

theorem ofWord?_eq_some_iff {word : String} {trigger : Trigger} :
    Trigger.ofWord? word = some trigger ↔ trigger.word = word := by
  constructor
  · intro h
    simpa using List.find?_some h
  · rintro rfl
    exact Trigger.ofWord?_word trigger

/-- A parameter list that is empty but for blanks. -/
theorem opensWithEmptyParameters_iff {rest : List Char} :
    opensWithEmptyParameters ('(' :: rest) = true ↔
      ∃ blanks more, (∀ c ∈ blanks, isBlank c = true) ∧ rest = blanks ++ ')' :: more := by
  rw [opensWithEmptyParameters, decide_eq_true_eq]
  constructor
  · intro h
    obtain ⟨more, hmore⟩ := List.head?_eq_some_iff.mp h
    refine ⟨rest.takeWhile isBlank, more, fun c hc => List.mem_takeWhile_imp hc, ?_⟩
    rw [← hmore, List.takeWhile_append_dropWhile]
  · rintro ⟨blanks, more, hblanks, rfl⟩
    rw [List.dropWhile_append_of_pos hblanks]
    rfl

/-- What a text is classified as is read off three parts of it: the letters of the word, and the
opening and the whole of what follows the word. -/
theorem classify_eq_some_iff {text : String} {found : Classification} :
    classify text = some found ↔
      Trigger.ofWord? (String.ofList ((text.toList.dropWhile isBlank).takeWhile isTriggerLetter)) =
          some found.trigger ∧
        Opens found.trigger found.grammar
          (((text.toList.dropWhile isBlank).dropWhile isTriggerLetter).dropWhile isBlank) ∧
        found.source = String.ofList (trimEnd
          (((text.toList.dropWhile isBlank).dropWhile isTriggerLetter).dropWhile isBlank)) := by
  rw [classify]
  generalize String.ofList ((text.toList.dropWhile isBlank).takeWhile isTriggerLetter) = word
  generalize ((text.toList.dropWhile isBlank).dropWhile isTriggerLetter).dropWhile isBlank = program
  obtain ⟨trigger, grammar, source⟩ := found
  constructor
  · intro h
    replace h := Option.bind_eq_some_iff.mp h
    obtain ⟨trigger', hword, h⟩ := h
    dsimp only at h
    split at h
    · cases h
      exact ⟨hword, .mapping trigger _, rfl⟩
    · rename_i rest
      split at h
      · cases h
      · rename_i hopen
        cases h
        refine ⟨hword, ?_, rfl⟩
        by_cases htrigger : trigger = .change
        · subst htrigger
          have hempty : opensWithEmptyParameters ('(' :: rest) = true := by simpa using hopen
          obtain ⟨blanks, more, hblanks, rfl⟩ := opensWithEmptyParameters_iff.mp hempty
          exact .parameters hblanks more
        · exact .body htrigger rest
    · cases h
  · rintro ⟨hword, hopens, rfl⟩
    rw [hword]
    cases hopens with
    | mapping rest => rfl
    | body htrigger rest => simp [htrigger]
    | parameters hblanks rest =>
      have hempty := opensWithEmptyParameters_iff.mpr ⟨_, rest, hblanks, rfl⟩
      simp [hempty]

namespace Opens

variable {trigger : Trigger} {grammar : Grammar} {program : List Char}

/-- A program opens with a mark that is neither a blank nor part of a word. -/
theorem mark (h : Opens trigger grammar program) :
    ∃ c rest, program = c :: rest ∧ isBlank c = false ∧ isTriggerLetter c = false := by
  cases h with
  | mapping | body | parameters => exact ⟨_, _, rfl, by decide, by decide⟩

/-- The blanks in front of a program are skipped up to it. -/
theorem skip (h : Opens trigger grammar program) {blanks : List Char}
    (hblanks : ∀ c ∈ blanks, isBlank c = true) :
    (blanks ++ program).dropWhile isBlank = program := by
  obtain ⟨mark, rest, rfl, hmark, -⟩ := h.mark
  rw [List.dropWhile_append_of_pos hblanks, List.dropWhile_cons_of_neg (by simp [hmark])]

/-- No letter of a word follows in front of a program, or of the blanks in front of it. -/
theorem exists_head_not_letter (h : Opens trigger grammar program) {blanks : List Char}
    (hblanks : ∀ c ∈ blanks, isBlank c = true) :
    ∃ c rest, blanks ++ program = c :: rest ∧ ¬ isTriggerLetter c = true := by
  cases blanks with
  | nil =>
    obtain ⟨mark, rest, rfl, -, hletter⟩ := h.mark
    exact ⟨mark, rest, rfl, by simp [hletter]⟩
  | cons c rest =>
    refine ⟨c, rest ++ program, rfl, fun hc => ?_⟩
    have hblank := hblanks c List.mem_cons_self
    rw [isBlank_of_isTriggerLetter hc] at hblank
    cases hblank

/-- In front of a word the blanks are skipped up to the word. Without one there is a single run of
blanks, and all of it is skipped at once. -/
theorem skip_word (h : Opens trigger grammar program) {before between : List Char}
    (hbefore : ∀ c ∈ before, isBlank c = true) (hbetween : ∀ c ∈ between, isBlank c = true) :
    ∃ gap, (∀ c ∈ gap, isBlank c = true) ∧
      (before ++ (trigger.word.toList ++ (between ++ program))).dropWhile isBlank =
        trigger.word.toList ++ (gap ++ program) := by
  rw [List.dropWhile_append_of_pos hbefore]
  cases hword : trigger.word.toList with
  | nil => exact ⟨[], nofun, h.skip hbetween⟩
  | cons c letters =>
    have hc : isBlank c = false :=
      isBlank_of_isTriggerLetter (isTriggerLetter_of_mem_word trigger c (by simp [hword]))
    exact ⟨between, hbetween, by simp [hc]⟩

end Opens

namespace Spells

variable {trigger : Trigger} {grammar : Grammar} {program text : List Char}

/-- The parts that a text is classified by are the word and the program that it spells. -/
theorem parts (h : Spells trigger grammar program text) :
    (text.dropWhile isBlank).takeWhile isTriggerLetter = trigger.word.toList ∧
      ((text.dropWhile isBlank).dropWhile isTriggerLetter).dropWhile isBlank = program := by
  obtain ⟨hopens, before, between, hbefore, hbetween, rfl⟩ := h
  obtain ⟨gap, hgap, htext⟩ := hopens.skip_word hbefore hbetween
  obtain ⟨c, rest, hfollows, hc⟩ := hopens.exists_head_not_letter hgap
  have hletters := isTriggerLetter_of_mem_word trigger
  rw [htext, List.takeWhile_append_of_pos hletters, List.dropWhile_append_of_pos hletters]
  constructor
  · rw [hfollows, List.takeWhile_cons_of_neg hc, List.append_nil]
  · rw [hfollows, List.dropWhile_cons_of_neg hc, ← hfollows, hopens.skip hgap]

/-- A text spells what the parts are that it is classified by. -/
theorem of_parts
    (hword : (text.dropWhile isBlank).takeWhile isTriggerLetter = trigger.word.toList)
    (hopens : Opens trigger grammar
      (((text.dropWhile isBlank).dropWhile isTriggerLetter).dropWhile isBlank)) :
    Spells trigger grammar
      (((text.dropWhile isBlank).dropWhile isTriggerLetter).dropWhile isBlank) text where
  opens := hopens
  spelt := by
    refine ⟨text.takeWhile isBlank,
      ((text.dropWhile isBlank).dropWhile isTriggerLetter).takeWhile isBlank,
      fun c hc => List.mem_takeWhile_imp hc, fun c hc => List.mem_takeWhile_imp hc, ?_⟩
    rw [← hword, List.takeWhile_append_dropWhile, List.takeWhile_append_dropWhile,
      List.takeWhile_append_dropWhile]

end Spells

/-- Trimming a program gives it without the blanks behind it, and nothing else does. -/
theorem trimmed_iff {program source : List Char} :
    Trimmed program source ↔ source = trimEnd program := by
  constructor
  · rintro ⟨hlast, blanks, hblanks, rfl⟩
    rw [trimEnd_append hblanks hlast]
  · rintro rfl
    exact ⟨getLast?_trimEnd program, eq_trimEnd_append program⟩

/-- What ends in a mark that is no blank still ends there without the blanks behind it. -/
theorem Trimmed.splits (start : List Char) {rest source : List Char} {c : Char}
    (h : Trimmed (start ++ c :: rest) source) (hc : isBlank c = false) :
    ∃ more, source = start ++ c :: more := by
  obtain ⟨-, blanks, hblanks, hprogram⟩ := h
  rcases List.append_eq_append_iff.mp hprogram with ⟨more, hsource, hrest⟩ | ⟨more, hstart, hrest⟩
  · cases more with
    | nil =>
      rw [List.nil_append] at hrest
      rw [hblanks c (hrest ▸ List.mem_cons_self)] at hc
      cases hc
    | cons d more =>
      obtain ⟨rfl, -⟩ := List.cons.inj hrest
      exact ⟨more, hsource⟩
  · rw [hblanks c (by simp [hrest])] at hc
    cases hc

/-- A program opens no differently without the blanks behind it. -/
theorem Opens.trimmed {trigger : Trigger} {grammar : Grammar} {program source : List Char}
    (h : Opens trigger grammar program) (hsource : Trimmed program source) :
    Opens trigger grammar source := by
  cases h with
  | mapping rest =>
    obtain ⟨more, rfl⟩ := hsource.splits [] (by decide)
    exact .mapping trigger more
  | body hword rest =>
    obtain ⟨more, rfl⟩ := hsource.splits [] (by decide)
    exact .body hword more
  | @parameters blanks hblanks rest =>
    obtain ⟨more, rfl⟩ := hsource.splits ('(' :: blanks) (by decide)
    exact .parameters hblanks more

/-- A text is classified as what it spells. -/
theorem classify_iff_spells {text : String} {found : Classification} :
    classify text = some found ↔
      ∃ program, Spells found.trigger found.grammar program text.toList ∧
        Trimmed program found.source.toList := by
  rw [classify_eq_some_iff, ofWord?_eq_some_iff]
  constructor
  · rintro ⟨hword, hopens, hsource⟩
    refine ⟨_, .of_parts (by rw [hword, String.toList_ofList]) hopens, ?_⟩
    rw [trimmed_iff, hsource, String.toList_ofList]
  · rintro ⟨program, hspells, htrimmed⟩
    obtain ⟨hword, hprogram⟩ := hspells.parts
    rw [hword, hprogram, String.ofList_toList]
    refine ⟨rfl, hspells.opens, ?_⟩
    rw [← trimmed_iff.mp htrimmed, String.ofList_toList]

/-- What a text spells is found when it is classified. -/
theorem Spells.classified {trigger : Trigger} {grammar : Grammar} {program : List Char}
    {text : String} (h : Spells trigger grammar program text.toList) :
    classify text = some ⟨trigger, grammar, String.ofList (trimEnd program)⟩ := by
  refine classify_iff_spells.mpr ⟨program, h, trimmed_iff.mpr ?_⟩
  exact String.toList_ofList

/-- A text is classified exactly if it is blanks, a trigger's word, blanks, and a program that the
trigger allows, which is a mapping, or a body, but without a word only one behind an empty parameter
list. These parts are unique. The classification has the trigger, the grammar, and the program
without the blanks behind it, and the trigger's word in front of that is classified the same. -/
theorem classify_grammar (text : String) :
    ((classify text).isSome ↔ ∃ trigger grammar program,
        Spells trigger grammar program text.toList) ∧
      (∀ trigger trigger' grammar grammar' program program',
        Spells trigger grammar program text.toList →
        Spells trigger' grammar' program' text.toList →
        trigger = trigger' ∧ grammar = grammar' ∧ program = program') ∧
      ∀ found, classify text = some found →
        (∃ program, Spells found.trigger found.grammar program text.toList ∧
          Trimmed program found.source.toList) ∧
        classify (found.trigger.word ++ found.source) = some found := by
  refine ⟨⟨fun h => ?_, ?_⟩, ?_, fun found hfound => ?_⟩
  · obtain ⟨found, hfound⟩ := Option.isSome_iff_exists.mp h
    obtain ⟨program, hspells, -⟩ := classify_iff_spells.mp hfound
    exact ⟨_, _, program, hspells⟩
  · rintro ⟨trigger, grammar, program, hspells⟩
    rw [hspells.classified]
    rfl
  · intro trigger trigger' grammar grammar' program program' hfirst hsecond
    have hsame := hfirst.classified.symm.trans hsecond.classified
    injection hsame with hsame
    injection hsame with htrigger hgrammar
    exact ⟨htrigger, hgrammar, hfirst.parts.2.symm.trans hsecond.parts.2⟩
  · have hspelt := classify_iff_spells.mp hfound
    refine ⟨hspelt, classify_iff_spells.mpr ⟨found.source.toList, ?_⟩⟩
    obtain ⟨program, hspells, htrimmed⟩ := hspelt
    refine ⟨⟨hspells.opens.trimmed htrimmed, [], [], nofun, nofun, ?_⟩, htrimmed.1, [], nofun, ?_⟩
    · rw [String.toList_append]
      rfl
    · rw [List.append_nil]

/-- A body that is not even closed is classified by its word, whatever blanks are around that. -/
theorem classify_grammar_of_opened :
    classify "\u2003click\n( \x7b\t" = some ⟨.click, .expanded, "( \x7b"⟩ ∧
      classify ("click" ++ "( \x7b") = some ⟨.click, .expanded, "( \x7b"⟩ := by
  have hfound : classify "\u2003click\n( \x7b\t" = some ⟨.click, .expanded, "( \x7b"⟩ := by
    decide +kernel
  exact ⟨hfound, ((classify_grammar _).2.2 _ hfound).2⟩

end Canvasflow.Connector
