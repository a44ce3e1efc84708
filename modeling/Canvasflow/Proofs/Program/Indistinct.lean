import Canvasflow.Proofs.Number.Safe
import Canvasflow.Proofs.Program.LikeRuns

/-!
# Programs cannot tell a safe integer from its double

Two states are alike up to the form of numbers when some integers of at most `settledLimit` in one
stand where the other has the doubles of the same value. No operation tells them apart, so
`forms_indistinct` follows by going through two runs side by side: they end alike, write the same
log and take the same steps.
-/

namespace Canvasflow.Program

/-- Numbers stand for each other when they are equal up to the form of a safe integer. There are no
limits on texts, lists and failures. -/
def Likeness.upToForm : Likeness where
  num := Number.Alike
  text _ := True
  size _ := True
  keys _ := True
  fails _ := True

namespace Likeness

open Number

theorem truthy_eq_of_alike {a b : Number} (h : a.Alike b) :
    (Value.num a).truthy = (Value.num b).truthy := by
  refine h.congr (f := fun a => (Value.num a).truthy) fun n hn => ?_
  have hlt := lt_of_safe hn
  simp only [Value.truthy, ofInt?_of_lt hlt, ofInt_beq_zero hlt, isNaN_ofInt hlt]
  by_cases hzero : n = 0 <;> simp [hzero]

theorem countArgument_eq_of_alike {a b : Number} (h : a.Alike b) :
    countArgument (.num a) = countArgument (.num b) := by
  refine h.congr (f := fun a => countArgument (.num a)) fun n hn => ?_
  have hlt := lt_of_safe hn
  simp only [countArgument, isNaN_ofInt hlt, Double.truncate?_ofInt hlt, Bool.false_eq_true,
    if_false]

theorem upToForm_lawful : upToForm.Lawful where
  nil := trivial
  add _ _ _ := trivial
  take _ _ _ _ := trivial
  drop _ _ := trivial
  double _ := .refl _
  toFloat? h := h.toFloat?_eq
  whole? h := h.whole?_eq
  written? h := h.written?_eq
  same hab hcd := hab.same_eq hcd
  truthy := truthy_eq_of_alike
  count := countArgument_eq_of_alike
  settle h := ⟨h.settle_eq, .refl _⟩
  missing := .refl _
  sized _ := .refl _
  size_le _ _ := trivial
  size_max := trivial
  chars _ := trivial
  text_max _ := trivial
  part _ _ := trivial
  program _ := trivial
  tooDeep := trivial
  overflow _ _ := trivial
  unwritten _ _ := trivial

theorem upToForm_lengthening : upToForm.Lengthening where
  upper _ := trivial
  lower _ := trivial
  pieces _ := trivial

theorem upToForm_unlimited : upToForm.Unlimited where
  text _ := trivial
  size _ := trivial

mutual

theorem upToForm_admits : (data : Data) → upToForm.Admits data
  | .null | .bool _ | .str _ => trivial
  | .num _ => .refl _
  | .list items => ⟨trivial, upToForm_admitsAll items⟩
  | .record fields => ⟨trivial, upToForm_admitsFields fields⟩

theorem upToForm_admitsAll : (items : List Data) → upToForm.AdmitsAll items
  | [] => trivial
  | item :: rest => ⟨upToForm_admits item, upToForm_admitsAll rest⟩

theorem upToForm_admitsFields : (fields : List (String × Data)) → upToForm.AdmitsFields fields
  | [] => trivial
  | (_, item) :: rest => ⟨upToForm_admits item, upToForm_admitsFields rest⟩

end

end Likeness

open Likeness

/-- Programs cannot tell a safe integer from the equal double. When the names of a run hold values
that are equal up to the form of safe integers, at any depth and with the same sharing, then both
runs fail or both return values that are equal up to it; and at their ends the same holds of every
list, every record and every name, the log is the same and so is the number of steps. -/
theorem forms_indistinct (world : World) (maxSteps : Int) (body : List Stmt) (stamps : Nat)
    {heap heap' : Heap} {names names' : Entries Value} (hheap : upToForm.Heaps heap heap')
    (hnames : upToForm.Fields names names') :
    let first := run ⟨world, maxSteps⟩ body (.start heap stamps names)
    let second := run ⟨world, maxSteps⟩ body (.start heap' stamps names')
    Agree AnyFailure upToForm.Values first.1 second.1 ∧
      upToForm.Heaps first.2.heap second.2.heap ∧
      List.Forall₂ upToForm.Frames first.2.scopes second.2.scopes ∧
      first.2.log = second.2.log ∧ first.2.steps = second.2.steps := by
  have hstart : upToForm.Machines (.start heap stamps names) (.start heap' stamps names') :=
    ⟨hheap, .cons ⟨hnames, rfl⟩ .nil, rfl, rfl, rfl, rfl⟩
  have hready : upToForm.Ready ⟨world, maxSteps⟩ :=
    ⟨upToForm_lawful, upToForm_lengthening, fun _ data _ => upToForm_admits data⟩
  obtain ⟨hagree, hend⟩ := run_alike hready (upToForm_unlimited.fitsStmts body) hstart
  exact ⟨hagree.any, hend.heap, hend.scopes, hend.log, hend.steps⟩

/-- A program that gives the item of a list that a number counts. -/
def picking : List Stmt :=
  [.ret (some (.read (.index (.read (.name "items")) (.read (.name "k")) false)))]

/-- The heap on which it runs, with numbers in a form. -/
def pickedHeap (form : Int → Number) : Heap :=
  ⟨#[.list #[.num (form 5), .num (form 7)]]⟩

/-- The names with which it runs, with numbers in a form. -/
def pickedNames (form : Int → Number) : Entries Value :=
  globals ++ [("items", .list 0), ("k", .num (form 1))]

theorem picking_in_both_forms :
    let doubled (n : Int) : Number := .double (Float.ofInt n)
    let first := run ⟨.none, 10⟩ picking (.start (pickedHeap .int) 0 (pickedNames .int))
    let second := run ⟨.none, 10⟩ picking (.start (pickedHeap doubled) 0 (pickedNames doubled))
    (upToForm.Heaps (pickedHeap .int) (pickedHeap doubled) ∧
      upToForm.Fields (pickedNames .int) (pickedNames doubled)) ∧
    (Agree AnyFailure upToForm.Values first.1 second.1 ∧
      upToForm.Heaps first.2.heap second.2.heap ∧
      List.Forall₂ upToForm.Frames first.2.scopes second.2.scopes ∧
      first.2.log = second.2.log ∧ first.2.steps = second.2.steps) ∧
    first.1 = .ok (.num (.int 7)) ∧ second.1 = .ok (.num (doubled 7)) := by
  intro doubled first second
  have hnum {n : Int} (h : n.natAbs ≤ Number.settledLimit) :
      upToForm.Values (.num (.int n)) (.num (doubled n)) := .num (.toDouble h)
  have hheap : upToForm.Heaps (pickedHeap .int) (pickedHeap doubled) := by
    refine ⟨rfl, fun {place} cell other hcell hother => ?_⟩
    cases place with
    | zero =>
      cases hcell
      cases hother
      exact .list trivial (.cons (hnum (by decide)) (.cons (hnum (by decide)) .nil))
    | succ => cases hcell
  have hnames : upToForm.Fields (pickedNames .int) (pickedNames doubled) :=
    List.rel_append (globals_alike upToForm_lawful)
      (.cons ⟨rfl, .list 0⟩ (.cons ⟨rfl, hnum (by decide)⟩ .nil))
  exact ⟨⟨hheap, hnames⟩, forms_indistinct .none 10 picking 0 hheap hnames, by rfl, by rfl⟩

end Canvasflow.Program
