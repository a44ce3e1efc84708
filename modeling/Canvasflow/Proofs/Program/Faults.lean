import Canvasflow.Program.Compiled
import Canvasflow.Proofs.Number.Range
import Canvasflow.Proofs.Number.Safe
import Canvasflow.Proofs.Program.Bounds
import Canvasflow.Proofs.Program.Reading

/-!
# Runs fail only by faults of the program

The conversions below a run also fail in ways that are no fault of the program, and only native
functions turn these into one. `run_faults` says that none of them leaves a run as long as every
integer in its state has a nearest double; `doubleRange` is where that ends, and from there on an
integer under an operator does stop a run with an overflow.
-/

namespace Canvasflow.Program

open Number

/-- More than the characters of a text and the items of a list that a host can have. -/
def hostLimit : Nat := 2 ^ 63

/-- Faults of the program, and the end of a recursion that goes too deep, which a run turns into
one. -/
def Failure.Reported (failure : Failure) : Prop :=
  failure = .tooDeep ∨ ∃ cause, failure = .program cause

/-- States whose numbers are within the range of doubles, with no more than the host can have. -/
def Likeness.inRange : Likeness :=
  .within hostLimit Number.InRange Failure.Reported

namespace Likeness

theorem inRange_of_lt {n : Int} (h : n.natAbs < 2 ^ 66) : (Number.int n).InRange :=
  h.trans_le (Double.two_pow_le_doubleRange (by decide))

theorem inRange_closed : Closed hostLimit Number.InRange Failure.Reported where
  large := by decide
  double _ := trivial
  missing := inRange_of_lt (by decide)
  sized {n} hn := inRange_of_lt (by
    simp only [hostLimit] at hn
    omega)
  settle {a} ha := by
    cases a with
    | int n => exact ha
    | double x =>
      simp only [Number.settle]
      split
      · split
        · rename_i n _ hsmall
          exact inRange_of_lt (by
            have := lt_of_safe hsmall
            omega)
        · trivial
      · trivial
  program fault := .inr ⟨fault, rfl⟩
  tooDeep := .inl rfl
  overflow {a} ha hnone := by simp [← toFloat?_isSome_iff, hnone] at ha
  unwritten {a} ha hnone := by
    cases a with
    | int n => simp [Number.written?, intText?_of_range ha] at hnone
    | double x => simp [Number.written?] at hnone

end Likeness

open Likeness

/-- The body of a program that adds one to a number. -/
def adding : List Stmt :=
  [.ret (some (.binary (.read (.name "n")) .add (.literal (.num 1.0))))]

/-- The state in which it starts. -/
def addingStart (n : Int) : Machine :=
  .start ⟨#[]⟩ 0 [("n", .int n)]

/-- An integer beyond the range of doubles stops a run, and not with a fault of the program. -/
theorem adding_overflows {n : Int} (h : Double.doubleRange ≤ n.natAbs) (world : World) :
    (run ⟨world, defaultMaxSteps⟩ adding (addingStart n)).1 = .error .overflow := by
  have hnone : Double.ofInt? n = none := by
    rw [← Option.not_isSome_iff_eq_none, Double.ofInt?_isSome_iff]
    exact Nat.not_lt.mpr h
  let context : Context := ⟨world, defaultMaxSteps⟩
  let machine : Machine := { (addingStart n).enter with steps := 1 }
  have htick : (Run.tick context).run (addingStart n).enter = (.ok (), machine) := rfl
  have hread : (evaluate context (.read (.name "n")) 899).run machine =
      (.ok (.num (.int n)), machine) := rfl
  have hliteral : (evaluate context (.literal (.num 1.0)) 899).run machine =
      (.ok (.num (.double 1.0)), machine) := rfl
  have hadd : applyBinary machine.heap .add (.num (.int n)) (.num (.double 1.0)) =
      .error .overflow := by
    simp only [applyBinary, addValues, compute, Value.numericOperand, Value.toNumber,
      Number.toFloat?, hnone]
    rfl
  have hvalue : (valueOf context (.binary (.read (.name "n")) .add (.literal (.num 1.0)))).run
      machine = (.error (.failed .overflow), machine) := by
    rw [valueOf, evaluationRoom, evaluate, Stateful.run_bind_ok hread,
      Stateful.run_bind_ok hliteral, Stateful.run_bind_ok (Stateful.run_get machine), hadd]
    rfl
  have hret : (execute context (.ret (some (.binary (.read (.name "n")) .add
      (.literal (.num 1.0)))))).run (addingStart n).enter =
        (.error (.failed .overflow), machine) := by
    rw [execute, Stateful.run_bind_ok htick, valueOf?, Stateful.run_bind_error hvalue]
  rw [run_eq, runBody, Run.run_inNewScope, adding, executeAll, Stateful.run_bind_error hret]
  rfl

/-- A run in surroundings and from names without an integer beyond the range of doubles gives a
value or stops with a fault of the program. The bound is sharp: every other integer stops a run with
an overflow. -/
theorem run_faults {world : World} (hworld : world.Admitted inRange) (maxSteps : Int)
    {grammar : Grammar} {source : String} {body : List Stmt} (hlength : source.length ≤ hostLimit)
    (hparse : parse grammar source = .ok body) {heap : Heap} {names : Entries Value} (stamps : Nat)
    (hheap : inRange.Heaps heap heap) (hnames : inRange.Fields names names) :
    ((∃ value, (run ⟨world, maxSteps⟩ body (.start heap stamps names)).1 = .ok value) ∨
      ∃ cause, (run ⟨world, maxSteps⟩ body (.start heap stamps names)).1 =
        .error (.program cause)) ∧
    ∀ n : Int, ¬(Number.int n).InRange →
      (run ⟨world, defaultMaxSteps⟩ adding (addingStart n)).1 = .error .overflow := by
  constructor
  · have hfits : inRange.FitsStmts body := by
      refine parse_fits (by decide) (fun _ => within_text) (fun n hn => ?_) hlength hparse
      change n ≤ 3 * hostLimit + 1
      omega
    have hstart : inRange.Machines (.start heap stamps names) (.start heap stamps names) :=
      ⟨hheap, .cons ⟨hnames, rfl⟩ .nil, rfl, rfl, rfl, rfl⟩
    have hready : inRange.Ready ⟨world, maxSteps⟩ :=
      ⟨within_lawful inRange_closed, within_lengthening, hworld⟩
    have hagree := (run_alike hready hfits hstart).1
    generalize (run ⟨world, maxSteps⟩ body (.start heap stamps names)).1 = outcome at hagree ⊢
    cases hagree with
    | ok => exact .inl ⟨_, rfl⟩
    | error h =>
      obtain ⟨cause, _, ⟨hcause, -⟩, rfl, -⟩ := h
      obtain rfl | ⟨cause, rfl⟩ := hcause
      · exact .inr ⟨.nestedTooDeeply, rfl⟩
      · exact .inr ⟨cause, rfl⟩
  · exact fun n hn => adding_overflows (Nat.not_lt.mp hn) world

/-- A program that adds a number to the length of a list. -/
def totalling : String :=
  "() \x7b return items.length + n; \x7d"

/-- Its body. -/
def totallingBody : List Stmt :=
  [.ret (some (.binary (.read (.member (.read (.name "items")) "length" false)) .add
    (.read (.name "n"))))]

/-- The names with which it runs: a list of one item and a large integer. -/
def totallingNames : Entries Value :=
  globals ++ [("items", .list 0), ("n", .int (10 ^ 300))]

theorem totalling_ends :
    (parse .expanded totalling = .ok totallingBody ∧
      inRange.Heaps ⟨#[.list #[.null]]⟩ ⟨#[.list #[.null]]⟩ ∧
      inRange.Fields totallingNames totallingNames) ∧
    (let result := (run ⟨.none, 5⟩ totallingBody
        (.start ⟨#[.list #[.null]]⟩ 0 totallingNames)).1;
      ((∃ value, result = .ok value) ∨ ∃ cause, result = .error (.program cause)) ∧
      ∀ n : Int, ¬(Number.int n).InRange →
        (run ⟨.none, defaultMaxSteps⟩ adding (addingStart n)).1 = .error .overflow) := by
  have hparse : parse .expanded totalling = .ok totallingBody := by
    unfold totalling totallingBody
    cbv
  have hheap : inRange.Heaps ⟨#[.list #[.null]]⟩ ⟨#[.list #[.null]]⟩ := by
    refine ⟨rfl, fun {place} cell other hcell hother => ?_⟩
    cases place with
    | zero =>
      cases hcell
      cases hother
      exact .list (show 1 ≤ 3 * hostLimit + 1 by decide) (.cons .null .nil)
    | succ => cases hcell
  have hrange : (Number.int (10 ^ 300)).InRange := by
    unfold Number.InRange Double.doubleRange
    decide +kernel
  have hnames : inRange.Fields totallingNames totallingNames :=
    List.rel_append (globals_alike (within_lawful inRange_closed))
      (.cons ⟨rfl, .list 0⟩ (.cons ⟨rfl, .num ⟨rfl, hrange⟩⟩ .nil))
  have hworld : World.none.Admitted inRange := by
    rintro question data ⟨⟩
    trivial
  exact ⟨⟨hparse, hheap, hnames⟩,
    run_faults hworld 5 (by decide) hparse 0 hheap hnames⟩

end Canvasflow.Program
