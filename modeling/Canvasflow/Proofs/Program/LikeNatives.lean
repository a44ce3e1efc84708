import Canvasflow.Proofs.Number.Whole
import Canvasflow.Proofs.Program.LikeSnapshots

/-!
# What natives compute of like arguments

The parts of native functions that only look at the state agree on like arguments. Their failures
are not told apart: a run sees all of them but one as faults that name the function. Mathematical
functions see nothing but the doubles of their arguments, and a text is cut into parts of itself.
-/

namespace Canvasflow.Program.Likeness

variable {L : Likeness} {heap other : Heap} {a b : Value} {args args' : List Value}

theorem single_agree (h : List.Forall₂ L.Values args args') :
    Agree AnyFailure L.Values (single args) (single args') := by
  cases h with
  | nil => exact .refused _ _
  | cons hfirst hrest => cases hrest with
    | nil => exact .ok hfirst
    | cons => exact .refused _ _

/-- The only argument, or a default that is left out. -/
def atMostOne (default : Value) (args : List Value) : Except Failure Value :=
  match args with
  | [] => .ok default
  | [value] => .ok value
  | _ => .error .badType

theorem atMostOne_agree {default : Value} (hdefault : L.Values default default)
    (h : List.Forall₂ L.Values args args') :
    Agree AnyFailure L.Values (atMostOne default args) (atMostOne default args') := by
  cases h with
  | nil => exact .ok hdefault
  | cons hfirst hrest => cases hrest with
    | nil => exact .ok hfirst
    | cons => exact .refused _ _

theorem noArguments_agree (h : List.Forall₂ L.Values args args') :
    Agree AnyFailure Eq (noArguments args) (noArguments args') := by
  cases h with
  | nil => exact .ok rfl
  | cons => exact .refused _ _

theorem countArgument_agree (hL : L.Lawful) (h : L.Values a b) :
    Agree AnyFailure Eq (countArgument a) (countArgument b) := by
  cases h with
  | num h =>
    rw [← hL.count h]
    exact .itself _
  | _ => exact .itself _

/-- The bounds of a slice between two given positions. -/
def boundsBetween (length : Nat) (first last : Value) : Except Failure (Nat × Nat) := do
  let start ← countArgument first
  match last with
  | .null => return (clipIndex length start, length)
  | last => return (clipIndex length start, clipIndex length (← countArgument last))

theorem boundsBetween_agree (hL : L.Lawful) (length : Nat) {first first' last last' : Value}
    (hfirst : L.Values first first') (hlast : L.Values last last') :
    Agree AnyFailure Eq (boundsBetween length first last) (boundsBetween length first' last') := by
  refine (countArgument_agree hL hfirst).bind ?_
  rintro start _ rfl
  have hcount := countArgument_agree hL hlast
  cases hlast with
  | null => exact .ok rfl
  | _ =>
    refine hcount.bind ?_
    rintro stop _ rfl
    exact .ok rfl

theorem sliceBounds_agree (hL : L.Lawful) (length : Nat) (h : List.Forall₂ L.Values args args') :
    Agree AnyFailure Eq (sliceBounds length args) (sliceBounds length args') := by
  have hbetween {first first' last last' : Value} (hfirst : L.Values first first')
      (hlast : L.Values last last') := boundsBetween_agree hL length hfirst hlast
  cases h with
  | nil => exact .itself _
  | cons hfirst hrest => cases hrest with
    | nil => exact hbetween hfirst .null
    | cons hlast hmore => cases hmore with
      | nil => exact hbetween hfirst hlast
      | cons => exact .refused _ _

/-! ### Mathematical functions -/

theorem mathOperands_eq (hL : L.Lawful) (h : List.Forall₂ L.Values args args') :
    args.mapM mathOperand = args'.mapM mathOperand := by
  induction h with
  | nil => rfl
  | @cons a b _ _ hvalue _ ih =>
    have hoperand : mathOperand a = mathOperand b := hvalue.numericOperand_eq hL _
    rw [List.mapM_cons, List.mapM_cons, hoperand, ih]

theorem mathUnary_eq (hL : L.Lawful) (fn : Float → Except Failure Float)
    (h : List.Forall₂ L.Values args args') : mathUnary fn args = mathUnary fn args' := by
  cases h with
  | nil => rfl
  | @cons a b _ _ hvalue hrest => cases hrest with
    | nil =>
      have hoperand : mathOperand a = mathOperand b := hvalue.numericOperand_eq hL _
      simp only [mathUnary, single, bind, Except.bind, hoperand]
    | cons => rfl

/-- Mathematical functions only see the doubles of their arguments. -/
theorem mathFn_eq (hL : L.Lawful) (fn : MathFn) (h : List.Forall₂ L.Values args args') :
    fn.apply args = fn.apply args' := by
  cases fn with
  | min | max | hypot => simp only [MathFn.apply, mathOperands_eq hL h]
  | pow | atan2 =>
    cases h with
    | nil => rfl
    | @cons a b _ _ hfirst hrest => cases hrest with
      | nil => rfl
      | @cons c d _ _ hsecond hmore => cases hmore with
        | nil =>
          have hac : mathOperand a = mathOperand b := hfirst.numericOperand_eq hL _
          have hbd : mathOperand c = mathOperand d := hsecond.numericOperand_eq hL _
          simp only [MathFn.apply, powerOf, hac, hbd]
        | cons => rfl
  | random => rfl
  | _ => exact mathUnary_eq hL _ h

/-! ### Texts -/

/-- What is written of a number with a fixed number of places. -/
def fixedText (receiver : Number) (places : Float) : Except Failure String :=
  if !(0.0 ≤ places && places ≤ 100.0) then .error .badValue
  else match receiver.toFloat?, Double.truncate? places with
    | some x, some n => .ok (Double.fixedPlaces x n.toNat)
    | _, _ => .error .overflow

theorem toFixedText_eq (receiver : Number) (args : List Value) :
    toFixedText receiver args = (do
      fixedText receiver (← (← atMostOne (.int 0) args).toNumber)) := by
  have hrest (digits : Value) :
      (do
        let places ← digits.toNumber
        if !(0.0 ≤ places && places ≤ 100.0) then .error .badValue
        match receiver.toFloat?, Double.truncate? places with
        | some x, some n => return Double.fixedPlaces x n.toNat
        | _, _ => .error .overflow) = (do fixedText receiver (← digits.toNumber)) := by
    cases digits.toNumber with
    | error => rfl
    | ok places =>
      change (if _ then _ else _ : Except Failure String) = fixedText receiver places
      unfold fixedText
      split <;> rfl
  rcases args with _ | ⟨digits, _ | ⟨second, rest⟩⟩
  · exact hrest (.int 0)
  · exact hrest digits
  · rfl

theorem toFixedText_agree (hL : L.Lawful) {x y : Number} (hnum : L.num x y)
    (h : List.Forall₂ L.Values args args') :
    Agree AnyFailure L.Texts (toFixedText x args) (toFixedText y args') := by
  rw [toFixedText_eq, toFixedText_eq]
  have hzero : L.Values (.int 0) (.int 0) :=
    .num (hL.sized (hL.size_le hL.size_max (Nat.zero_le _)))
  refine (atMostOne_agree hzero h).bind fun digits digits' hdigits => ?_
  refine (hdigits.toNumber hL).any.bind ?_
  rintro places _ rfl
  simp only [fixedText, ← hL.toFloat? hnum]
  split
  · exact .refused _ _
  · rename_i hrange
    simp only [Bool.not_eq_true', Bool.not_eq_false, Bool.and_eq_true, decide_eq_true_eq] at hrange
    split
    · rename_i x n hx hn
      have hplaces := Double.truncate?_toNat_le_hundred hrange.2 hn
      exact .ok ⟨rfl, hL.short ((Double.fixedPlaces_length x hplaces).trans (by decide))⟩
    · exact .refused _ _

/-- Pieces of a text: parts of it one after another, at most one more than it has characters. -/
structure PiecesOf (chars : List Char) (pieces : List (List Char)) : Prop where
  parts : pieces.flatten.Sublist chars
  count : pieces.length ≤ chars.length + 1

theorem runsFrom_parts (separates : Char → Bool) (run chars : List Char) :
    (Text.runsFrom separates run chars).flatten.Sublist (run.reverse ++ chars) ∧
      (Text.runsFrom separates run chars).length ≤
        chars.length + (if run.isEmpty then 0 else 1) := by
  induction chars generalizing run with
  | nil =>
    unfold Text.runsFrom
    split <;> simp
  | cons c rest ih =>
    obtain ⟨hskipped, hskippedCount⟩ := ih []
    obtain ⟨hkept, hkeptCount⟩ := ih (c :: run)
    simp only [List.reverse_cons, List.append_assoc, List.reverse_nil, List.nil_append,
      List.cons_append, List.isEmpty_nil, List.isEmpty_cons, if_true, Bool.false_eq_true,
      if_false] at hskipped hskippedCount hkept hkeptCount
    unfold Text.runsFrom
    split
    · split
      · exact ⟨hskipped.trans ((List.sublist_cons_self c rest).trans
          (List.sublist_append_right _ _)), by simp only [List.length_cons]; omega⟩
      · refine ⟨?_, by simp only [List.length_cons]; omega⟩
        exact (List.Sublist.refl _).append (hskipped.trans (List.sublist_cons_self c rest))
    · refine ⟨hkept, hkeptCount.trans ?_⟩
      simp only [List.length_cons]
      omega

theorem splitOnto_parts (separator : List Char) (pieces : List (List Char)) (piece : List Char)
    (skip : Nat) (chars : List Char) :
    (splitOnto separator pieces piece skip chars).flatten.Sublist
        (pieces.reverse.flatten ++ piece.reverse ++ chars) ∧
      (splitOnto separator pieces piece skip chars).length ≤ pieces.length + 1 + chars.length := by
  induction chars generalizing pieces piece skip with
  | nil => cases skip <;> simp [splitOnto]
  | cons c rest ih =>
    cases skip with
    | succ skip =>
      obtain ⟨hparts, hcount⟩ := ih pieces piece skip
      simp only [splitOnto]
      refine ⟨hparts.trans ((List.Sublist.refl _).append (List.sublist_cons_self c rest)),
        hcount.trans ?_⟩
      simp
    | zero =>
      simp only [splitOnto]
      split
      · obtain ⟨hparts, hcount⟩ := ih (piece.reverse :: pieces) [] (separator.length - 1)
        simp only [List.reverse_cons, List.flatten_append, List.flatten_cons, List.flatten_nil,
          List.append_nil, List.reverse_nil] at hparts
        refine ⟨hparts.trans ((List.Sublist.refl _).append (List.sublist_cons_self c rest)),
          hcount.trans ?_⟩
        simp only [List.length_cons]
        omega
      · obtain ⟨hparts, hcount⟩ := ih pieces (c :: piece) 0
        refine ⟨by simpa using hparts, hcount.trans ?_⟩
        simp

/-- The pieces of a text by a given separator. -/
def splitBy (heap : Heap) (chars : List Char) (separator : Value) :
    Except Failure (List (List Char)) :=
  match separator with
  | .null => .ok (Text.runs Text.isBlank chars)
  | .str "" => .ok (chars.map ([·]))
  | other => do
    let text ← other.text heap
    if text.isEmpty then .error .badValue else .ok (splitAt text.toList chars)

theorem splitText_eq (heap : Heap) (chars : List Char) (args : List Value) :
    splitText heap chars args = (do splitBy heap chars (← atMostOne .null args)) := by
  rcases args with _ | ⟨separator, _ | ⟨second, rest⟩⟩ <;> rfl

theorem splitBy_str {separator : String} (hseparator : separator ≠ "") (heap : Heap)
    (chars : List Char) :
    splitBy heap chars (.str separator) = .ok (splitAt separator.toList chars) := by
  unfold splitBy
  split
  · contradiction
  · rename_i heq
    cases heq
    contradiction
  · exact if_neg (by simpa using hseparator)

theorem splitBy_agree (hL : L.Lawful) (hheap : L.Heaps heap other) (chars : List Char)
    (h : L.Values a b) :
    Agree AnyFailure (fun pieces pieces' => pieces = pieces' ∧ PiecesOf chars pieces)
      (splitBy heap chars a) (splitBy other chars b) := by
  have hsplit (text : String) : PiecesOf chars (splitAt text.toList chars) := by
    obtain ⟨hparts, hcount⟩ := splitOnto_parts text.toList [] [] 0 chars
    exact ⟨by simpa [splitAt] using hparts, by simpa [splitAt, Nat.add_comm] using hcount⟩
  have hother : Agree AnyFailure (fun pieces pieces' => pieces = pieces' ∧ PiecesOf chars pieces)
      (do
        let text ← a.text heap
        if text.isEmpty then .error .badValue else .ok (splitAt text.toList chars))
      (do
        let text ← b.text other
        if text.isEmpty then .error .badValue else .ok (splitAt text.toList chars)) := by
    refine (h.text hL hheap).any.bind ?_
    rintro text _ ⟨rfl, -⟩
    split
    · exact .refused _ _
    · exact .ok ⟨rfl, hsplit text⟩
  -- null cuts at blanks and the empty text everywhere; whatever else is given is written out
  cases h with
  | null =>
    obtain ⟨hparts, hcount⟩ := runsFrom_parts Text.isBlank [] chars
    exact .ok ⟨rfl, by simpa [Text.runs] using hparts, by
      simp only [List.isEmpty_nil, if_true] at hcount
      simp only [Text.runs]
      omega⟩
  | @str text htext =>
    by_cases hempty : text = ""
    · subst hempty
      have hparts : (chars.map ([·])).flatten = chars := by
        rw [← List.flatMap_def, List.flatMap_singleton']
      exact .ok ⟨rfl, by rw [hparts], by simp⟩
    · rw [splitBy_str hempty, splitBy_str hempty]
      exact .ok ⟨rfl, hsplit text⟩
  | _ => exact hother

theorem splitText_agree (hL : L.Lawful) (hheap : L.Heaps heap other) (chars : List Char)
    (h : List.Forall₂ L.Values args args') :
    Agree AnyFailure (fun pieces pieces' => pieces = pieces' ∧ PiecesOf chars pieces)
      (splitText heap chars args) (splitText other chars args') := by
  rw [splitText_eq, splitText_eq]
  exact (atMostOne_agree .null h).bind fun separator separator' hseparator =>
    splitBy_agree hL hheap chars hseparator

theorem shapeReference_agree (hL : L.Lawful) (hheap : L.Heaps heap other) (h : L.Values a b) :
    Agree AnyFailure Eq (shapeReference heap a) (shapeReference other b) := by
  cases h with
  | null => exact .itself _
  | str => exact .itself _
  | record place =>
    have hfind := (hheap.fields hL place).2.find? "id"
    simp only [shapeReference]
    generalize Entries.find? "id" (heap.fields place) = found,
      Entries.find? "id" (other.fields place) = found' at hfind ⊢
    cases hfind with
    | none => exact .itself _
    | some hvalue => cases hvalue <;> exact .itself _
  | _ => exact .refused _ _

end Canvasflow.Program.Likeness
