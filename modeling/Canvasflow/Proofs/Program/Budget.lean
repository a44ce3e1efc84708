import Canvasflow.Proofs.Program.Aside
import Mathlib.Data.Nat.Basic
import Mathlib.Order.Basic

/-!
# The budget of a run

Two runs of one act with different budgets go in step until the smaller budget is spent. `Metered`
says so of the two readings of an act: from a state within the smaller budget they end alike and
within it, or the first is cut off with the step beyond it taken and the second takes that step too.
The relation holds of the acts that take no step and of a single step, and it is closed under
sequences, scopes and loops, so it holds of every expression and every statement. With one budget on
both sides it bounds the steps of a run.
-/

namespace Canvasflow.Program

/-- The state with a new innermost scope. -/
def Machine.enter (machine : Machine) : Machine :=
  { machine with scopes := ⟨[], []⟩ :: machine.scopes }

/-- The state without its innermost scope. -/
def Machine.leave (machine : Machine) : Machine :=
  { machine with scopes := machine.scopes.tail }

@[simp] theorem Machine.enter_steps (machine : Machine) : machine.enter.steps = machine.steps := rfl

@[simp] theorem Machine.leave_steps (machine : Machine) : machine.leave.steps = machine.steps := rfl

theorem Run.run_inNewScope {α : Type} (act : Run α) (machine : Machine) :
    (Run.inNewScope act).run machine =
      ((act.run machine.enter).1, (act.run machine.enter).2.leave) := rfl

/-- A step is always taken; beyond the budget it stops the run. -/
theorem Run.run_tick (context : Context) (machine : Machine) :
    (Run.tick context).run machine =
      (if context.budget < machine.steps + 1 then
        .error (.failed (.program (.stepBudget context.maxSteps))) else .ok (),
        { machine with steps := machine.steps + 1 }) := by
  unfold Run.tick
  rw [Stateful.run_bind, Stateful.run_modify]
  dsimp only
  rw [Stateful.run_bind, Stateful.run_get]
  dsimp only
  split <;> rfl

/-- How a run, or a part of one, ends: what it gives or why it stops, and the state then. -/
abbrev Ending (α : Type) := Except Stop α × Machine

/-- An ending for want of steps: the first step beyond the budget is the last. -/
def Exhausted {α : Type} (context : Context) (ending : Ending α) : Prop :=
  ending.1 = .error (.failed (.program (.stepBudget context.maxSteps))) ∧
    ending.2.steps = context.budget + 1

/-- Two endings of one act, the first under the budget of a context. An act that succeeds has taken
the steps to at least `paid`. -/
inductive InStep {α : Type} (context : Context) (paid : Nat) : Ending α → Ending α → Prop
  | same {ending : Ending α} (hpaid : ∀ a, ending.1 = .ok a → paid ≤ ending.2.steps)
      (hwithin : ending.2.steps ≤ context.budget)
      (hfails : FailsAs context.world.AllowsStop ending.1) : InStep context paid ending ending
  | cut {first second : Ending α} (hfirst : Exhausted context first)
      (hsecond : context.budget < second.2.steps) : InStep context paid first second

/-- An act that takes no step back. -/
def Grows {α : Type} (act : Run α) : Prop :=
  ∀ machine, machine.steps ≤ (act.run machine).2.steps

/-- Two readings of an act that go in step until the budget of a context is spent; an act that
succeeds costs a number of steps. -/
structure Metered {α : Type} (context : Context) (cost : Nat) (first second : Run α) : Prop where
  grows : Grows second
  inStep : ∀ machine, machine.steps ≤ context.budget →
    InStep context (machine.steps + cost) (first.run machine) (second.run machine)

section Closure

variable {α β : Type} {context wider : Context}

theorem Grows.bind {first : Run α} {rest : α → Run β} (hfirst : Grows first)
    (hrest : ∀ a, Grows (rest a)) : Grows (first >>= rest) := by
  intro machine
  have hgrows := hfirst machine
  rw [Stateful.run_bind]
  generalize first.run machine = ending at hgrows ⊢
  obtain ⟨stop | a, next⟩ := ending
  · exact hgrows
  · exact hgrows.trans (hrest a next)

theorem Grows.repeatWhile {test : Run Bool} {round : Run Unit} (htest : Grows test)
    (hround : Grows round) (count : Nat) : Grows (Run.repeatWhile test round count) := by
  induction count with
  | zero => exact fun _ => le_rfl
  | succ count ih =>
    refine htest.bind fun holds => ?_
    cases holds with
    | false => exact fun _ => le_rfl
    | true => exact hround.bind fun _ => ih

theorem InStep.mono {paid less : Nat} {first second : Ending α}
    (h : InStep context paid first second) (hless : less ≤ paid) :
    InStep context less first second := by
  cases h with
  | same hpaid hwithin hfails =>
    exact .same (fun a ha => hless.trans (hpaid a ha)) hwithin hfails
  | cut hfirst hsecond => exact .cut hfirst hsecond

/-- A change of the state that leaves the steps alone keeps two endings in step. -/
theorem InStep.map {paid : Nat} {change : Machine → Machine}
    (hchange : ∀ machine, (change machine).steps = machine.steps) {first second : Ending α}
    (h : InStep context paid first second) :
    InStep context paid (first.1, change first.2) (second.1, change second.2) := by
  cases h with
  | same hpaid hwithin hfails =>
    exact .same (fun a ha => (hpaid a ha).trans_eq (hchange _).symm)
      ((hchange _).trans_le hwithin) hfails
  | cut hfirst hsecond =>
    exact .cut ⟨hfirst.1, (hchange _).trans hfirst.2⟩ (hsecond.trans_eq (hchange _).symm)

/-- Two runs agree if one of them stays within the smaller budget. -/
theorem InStep.eq_of_le {paid : Nat} {first second : Ending α}
    (h : InStep context paid first second)
    (hwithin : first.2.steps ≤ context.budget ∨ second.2.steps ≤ context.budget) :
    first = second := by
  cases h with
  | same => rfl
  | cut hfirst hsecond =>
    have := hfirst.2
    omega

/-- The first run is cut off where a second one goes beyond its budget. -/
theorem InStep.exhausted_of_lt {paid : Nat} {first second : Ending α}
    (h : InStep context paid first second) (hsecond : context.budget < second.2.steps) :
    Exhausted context first := by
  cases h with
  | same _ hwithin => omega
  | cut hfirst => exact hfirst

/-- A sequence in step: where both first parts succeed, the rest goes on from one state. -/
theorem InStep.bind {paid less : Nat} {first first' : Run α} {rest rest' : α → Run β}
    {machine : Machine} (hfirst : InStep context paid (first.run machine) (first'.run machine))
    (hgrows : ∀ a, Grows (rest' a))
    (hrest : ∀ a next, paid ≤ next.steps → next.steps ≤ context.budget →
      InStep context less ((rest a).run next) ((rest' a).run next)) :
    InStep context less ((first >>= rest).run machine) ((first' >>= rest').run machine) := by
  rw [Stateful.run_bind, Stateful.run_bind]
  generalize first.run machine = ending, first'.run machine = ending' at hfirst ⊢
  cases hfirst with
  | same hpaid hwithin hfails =>
    obtain ⟨stop | a, next⟩ := ending
    · exact .same nofun hwithin (FailsAs.error_iff.mpr (FailsAs.error_iff.mp hfails))
    · exact hrest a next (hpaid a rfl) hwithin
  | cut hcut hsecond =>
    obtain ⟨outcome, next⟩ := ending
    obtain rfl : outcome = _ := hcut.1
    refine .cut ⟨rfl, hcut.2⟩ ?_
    obtain ⟨stop | a, next'⟩ := ending'
    · exact hsecond
    · exact lt_of_lt_of_le hsecond (hgrows a next')

namespace Metered

theorem free {cost : Nat} {first second : Run α} (h : Metered context cost first second) :
    Metered context 0 first second :=
  ⟨h.grows, fun machine hm => (h.inStep machine hm).mono (Nat.le_add_right _ _)⟩

theorem aside {act : Run α} (h : Aside context.world.AllowsStop act) :
    Metered context 0 act act where
  grows machine := (h.steps machine).ge
  inStep machine hm :=
    .same (fun _ _ => (h.steps machine).ge) ((h.steps machine).trans_le hm) (h.fails machine)

theorem pure (a : α) : Metered context 0 (pure a : Run α) (pure a) :=
  aside (.pure a)

/-- A sequence costs what its last part costs. -/
theorem bind {cost : Nat} {first first' : Run α} {rest rest' : α → Run β}
    (hfirst : Metered context 0 first first')
    (hrest : ∀ a, Metered context cost (rest a) (rest' a)) :
    Metered context cost (first >>= rest) (first' >>= rest') where
  grows := hfirst.grows.bind fun a => (hrest a).grows
  inStep machine hm := (hfirst.inStep machine hm).bind (fun a => (hrest a).grows)
    fun a next hpaid hwithin =>
      ((hrest a).inStep next hwithin).mono (Nat.add_le_add_right hpaid cost)

/-- A single step: the smaller budget is spent first. -/
theorem tick (h : context.budget ≤ wider.budget) :
    Metered context 1 (Run.tick context) (Run.tick wider) where
  grows machine := by
    rw [Run.run_tick]
    exact Nat.le_succ _
  inStep machine hm := by
    rw [Run.run_tick, Run.run_tick]
    by_cases hspent : context.budget < machine.steps + 1
    · rw [if_pos hspent]
      exact .cut ⟨rfl, by dsimp only; omega⟩ hspent
    · rw [if_neg hspent, if_neg (by omega)]
      exact .same (fun _ _ => le_rfl) (by dsimp only; omega) (.ok ())

theorem inNewScope {first second : Run α} (h : Metered context 0 first second) :
    Metered context 0 (Run.inNewScope first) (Run.inNewScope second) where
  grows machine := by
    rw [Run.run_inNewScope]
    exact h.grows machine.enter
  inStep machine hm := by
    rw [Run.run_inNewScope, Run.run_inNewScope]
    exact (h.inStep machine.enter hm).map Machine.leave_steps

/-- A loop whose rounds cost a step goes in step with itself: the steps that are left, and one more,
bound its rounds on both sides. -/
theorem repeatWhile {test test' : Run Bool} {round round' : Run Unit}
    (htest : Metered context 0 test test') (hround : Metered context 1 round round')
    (count count' : Nat) (machine : Machine) (hm : machine.steps ≤ context.budget)
    (hcount : context.budget - machine.steps < count)
    (hcount' : context.budget - machine.steps < count') :
    InStep context machine.steps ((Run.repeatWhile test round count).run machine)
      ((Run.repeatWhile test' round' count').run machine) := by
  induction count generalizing count' machine with
  | zero => omega
  | succ count ih =>
    obtain _ | count' := count'
    · omega
    have hloop := htest.grows.repeatWhile hround.grows count'
    refine (htest.inStep machine hm).bind (fun holds => ?_) fun holds tested htested hwithin => ?_
    · cases holds with
      | false => exact fun _ => le_rfl
      | true => exact hround.grows.bind fun _ => hloop
    · cases holds with
      | false => exact .same (fun _ _ => htested) hwithin (.ok ())
      | true =>
        refine (hround.inStep tested hwithin).bind (fun _ => hloop) fun _ next hpaid hleft => ?_
        exact (ih count' next hleft (by omega) (by omega)).mono (by omega)

/-- A loop as long as its budget. -/
theorem loop (hbudget : context.budget ≤ wider.budget) {test test' : Run Bool}
    {round round' : Run Unit} (htest : Metered context 0 test test')
    (hround : Metered context 1 round round') :
    Metered context 0 (Run.repeatWhile test round (context.budget + 1))
      (Run.repeatWhile test' round' (wider.budget + 1)) where
  grows := htest.grows.repeatWhile hround.grows _
  inStep machine hm := htest.repeatWhile hround _ _ machine hm (by omega) (by omega)

end Metered

end Closure

/-! ## Expressions -/

/-- A context with the same surroundings and no smaller budget. -/
structure Context.Widens (context wider : Context) : Prop where
  world : wider.world = context.world
  budget : context.budget ≤ wider.budget

theorem Context.Widens.refl (context : Context) : context.Widens context :=
  ⟨rfl, le_rfl⟩

section Expressions

variable {context wider : Context}

section Parts

variable {room : Nat}
  (heval : ∀ expr, Metered context 0 (evaluate context expr room) (evaluate wider expr room))
include heval

theorem evaluateAll_metered (exprs : List Expr) :
    Metered context 0 (evaluateAll context exprs room) (evaluateAll wider exprs room) := by
  induction exprs with
  | nil => exact .pure []
  | cons first rest ih =>
    simp only [evaluateAll]
    exact .bind (heval first) fun value => .bind ih fun values => .pure (value :: values)

theorem evaluateEntry_metered (entry : Entry) (fields : Entries Value) :
    Metered context 0 (evaluateEntry context entry fields room)
      (evaluateEntry wider entry fields room) := by
  cases entry with
  | pair key expr =>
    simp only [evaluateEntry]
    exact .bind (heval expr) fun value => .pure _
  | spread expr =>
    simp only [evaluateEntry]
    exact .bind (heval expr) fun value => .aside (Run.spreadInto_aside fields value)

theorem evaluateEntries_metered (entries : List Entry) (fields : Entries Value) :
    Metered context 0 (evaluateEntries context entries fields room)
      (evaluateEntries wider entries fields room) := by
  induction entries generalizing fields with
  | nil => exact .pure fields
  | cons entry rest ih =>
    simp only [evaluateEntries]
    exact .bind (evaluateEntry_metered heval entry fields) ih

theorem readPlace_metered (place : Place) :
    Metered context 0 (readPlace context place room) (readPlace wider place room) := by
  cases place with
  | name name => exact .aside (Run.readName_aside name)
  | member object name optional =>
    simp only [readPlace]
    refine .bind (heval object) fun value => ?_
    split
    · exact .pure _
    · exact .aside (Run.readMember_aside value name)
  | index object index optional =>
    simp only [readPlace]
    refine .bind (heval object) fun value => ?_
    have hread := Metered.bind (heval index) fun key =>
      .aside (Run.readIndex_aside value key)
    split
    · split
      · exact .pure _
      · exact .bind (.aside (Run.fail_aside (by simp))) fun _ => hread
    · exact hread

theorem writePlace_metered (place : Place) (value : Value) :
    Metered context 0 (writePlace context place value room)
      (writePlace wider place value room) := by
  cases place with
  | name name => exact .aside (Run.writeName_aside name value)
  | member object name optional =>
    simp only [writePlace]
    exact .bind (heval object) fun target => .aside (Run.writePart_aside target _ value)
  | index object index optional =>
    simp only [writePlace]
    exact .bind (heval object) fun target => .bind (heval index) fun key =>
      .aside (Run.writePart_aside target key value)

end Parts

/-- An expression goes in step with itself under a larger budget. -/
theorem evaluate_metered (h : context.Widens wider) (expr : Expr) (room : Nat) :
    Metered context 0 (evaluate context expr room) (evaluate wider expr room) := by
  induction room generalizing expr with
  | zero =>
    simp only [evaluate]
    exact .aside (Run.fail_aside (by simp))
  | succ room heval =>
    have hof {α : Type} {result : Except Failure α} (hresult : FailsAs Failure.OffBudget result) :
        Metered context 0 (Run.ofExcept result) (Run.ofExcept result) :=
      .aside (Run.ofExcept_aside hresult)
    have hget : Metered context 0 (get : Run Machine) get := .aside .get
    cases expr with
    | literal value => exact .pure value.value
    | read place => exact readPlace_metered heval place
    | call callee args =>
      simp only [evaluate]
      refine .bind (Metered.tick h.budget).free fun _ => .bind (heval callee) fun fn => ?_
      split
      · refine .bind (evaluateAll_metered heval args) fun values => ?_
        rw [h.world]
        exact .aside (Run.callNative_aside _ values)
      · exact .aside (Run.fail_aside (by simp))
    | unary op operand =>
      simp only [evaluate]
      exact .bind (heval operand) fun value => hof (applyUnary_offBudget op value)
    | binary left op right =>
      simp only [evaluate]
      exact .bind (heval left) fun a => .bind (heval right) fun b => .bind hget fun machine =>
        hof (applyBinary_offBudget machine.heap op a b)
    | logical left op right =>
      simp only [evaluate]
      refine .bind (heval left) fun a => ?_
      have htruthy := hof a.truthy_offBudget
      cases op with
      | and | or =>
        refine .bind htruthy fun holds => ?_
        split
        all_goals first | exact heval right | exact .pure a
      | orElse =>
        dsimp only
        split
        · exact heval right
        · exact .pure a
    | conditional test yes no =>
      simp only [evaluate]
      refine .bind (heval test) fun value => .bind (hof value.truthy_offBudget) fun holds => ?_
      split
      · exact heval yes
      · exact heval no
    | object entries =>
      simp only [evaluate]
      exact .bind (evaluateEntries_metered heval entries []) fun fields =>
        .aside (Run.newRecord_aside fields)
    | array items =>
      simp only [evaluate]
      exact .bind (evaluateAll_metered heval items) fun values =>
        .aside (Run.newList_aside values)
    | assign target op value =>
      simp only [evaluate]
      have hwrite (assigned : Value) : Metered context 0
          (do writePlace context target assigned room; return assigned)
          (do writePlace wider target assigned room; return assigned) :=
        .bind (writePlace_metered heval target assigned) fun _ => .pure assigned
      cases op with
      | none => exact .bind (heval value) hwrite
      | some op =>
        exact .bind (readPlace_metered heval target) fun old =>
          .bind (heval value) fun extra => .bind hget fun machine =>
            .bind (hof (applyBinary_offBudget machine.heap op old extra)) hwrite
    | update target op before =>
      simp only [evaluate]
      refine .bind (readPlace_metered heval target) fun value =>
        .bind (hof (value.numericOperand_offBudget _)) fun old =>
          .bind (writePlace_metered heval target _) fun _ => .pure _

theorem valueOf_metered (h : context.Widens wider) (expr : Expr) :
    Metered context 0 (valueOf context expr) (valueOf wider expr) :=
  evaluate_metered h expr evaluationRoom

theorem valueOf?_metered (h : context.Widens wider) (expr : Option Expr) :
    Metered context 0 (valueOf? context expr) (valueOf? wider expr) := by
  cases expr with
  | none => exact .pure Value.null
  | some expr => exact valueOf_metered h expr

theorem holds_metered (h : context.Widens wider) (test : Option Expr) :
    Metered context 0 (holds context test) (holds wider test) := by
  cases test with
  | none => exact .pure true
  | some expr =>
    exact .bind (valueOf_metered h expr) fun value =>
      .aside (Run.ofExcept_aside value.truthy_offBudget)

end Expressions

/-! ## Statements -/

section Statements

variable {context wider : Context}

/-- What a loop does between two rounds: its update, if it has one, and a step. -/
def advance (context : Context) (next : Option Expr) : Run Unit := do
  let _ ← valueOf? context next
  Run.tick context

theorem advance_none : advance context none = Run.tick context := by
  simp [advance, valueOf?]

/-- A conditional without a second branch runs no statement in its place. -/
theorem execute_cond (test : Expr) (yes : Stmt) (no : Option Stmt) :
    execute context (.cond test yes no) = (do
      Run.tick context
      if ← holds context (some test) then execute context yes
      else executeAll context no.toList) := by
  cases no <;> simp [execute, executeAll]

theorem execute_loop (test : Expr) (body : Stmt) :
    execute context (.loop test body) = (do
      Run.tick context
      Run.repeatWhile (holds context (some test)) (do execute context body; advance context none)
        (context.budget + 1)) := by
  rw [execute, advance_none]

theorem execute_iterate (start : Option Stmt) (test next : Option Expr) (body : Stmt) :
    execute context (.iterate start test next body) = (do
      Run.tick context
      Run.inNewScope do
        executeAll context start.toList
        Run.repeatWhile (holds context test) (do execute context body; advance context next)
          (context.budget + 1)) := by
  cases start <;> simp [execute, executeAll, advance]

theorem execute_empty : execute context .empty = (do Run.tick context; pure ()) := by
  simp [execute]

theorem advance_metered (h : context.Widens wider) (next : Option Expr) :
    Metered context 1 (advance context next) (advance wider next) :=
  .bind (valueOf?_metered h next) fun _ => .tick h.budget

/-- A loop goes in step with itself where its body does: its rounds are paid for between them. -/
theorem Metered.rounds (h : context.Widens wider) {body : Stmt}
    (hbody : Metered context 0 (execute context body) (execute wider body))
    (test next : Option Expr) :
    Metered context 0
      (Run.repeatWhile (holds context test) (do execute context body; advance context next)
        (context.budget + 1))
      (Run.repeatWhile (holds wider test) (do execute wider body; advance wider next)
        (wider.budget + 1)) :=
  .loop h.budget (holds_metered h test) (.bind hbody fun _ => advance_metered h next)

mutual

/-- A statement goes in step with itself under a larger budget. -/
theorem execute_metered (h : context.Widens wider) (stmt : Stmt) :
    Metered context 0 (execute context stmt) (execute wider stmt) := by
  have htick := (Metered.tick h.budget).free
  cases stmt with
  | declare declarator name value =>
    simp only [execute]
    exact .bind htick fun _ => .bind (valueOf?_metered h value) fun value =>
      .aside (Run.declare_aside declarator name value)
  | expr value =>
    simp only [execute]
    exact .bind htick fun _ => .bind (valueOf_metered h value) fun _ => .pure ()
  | block body =>
    simp only [execute]
    exact .bind htick fun _ => .inNewScope (executeAll_metered h body)
  | cond test yes no =>
    rw [execute_cond, execute_cond]
    refine .bind htick fun _ => .bind (holds_metered h (some test)) fun holds => ?_
    cases holds with
    | true => exact execute_metered h yes
    | false => exact executeOption_metered h no
  | loop test body =>
    rw [execute_loop, execute_loop]
    exact .bind htick fun _ => .rounds h (execute_metered h body) (some test) none
  | iterate start test next body =>
    rw [execute_iterate, execute_iterate]
    exact .bind htick fun _ => .inNewScope (.bind (executeOption_metered h start) fun _ =>
      .rounds h (execute_metered h body) test next)
  | ret value =>
    simp only [execute]
    exact .bind htick fun _ => .bind (valueOf?_metered h value) fun value =>
      .aside (Run.returned_aside value)
  | empty =>
    simp only [execute]
    exact htick

theorem executeOption_metered (h : context.Widens wider) (stmt : Option Stmt) :
    Metered context 0 (executeAll context stmt.toList) (executeAll wider stmt.toList) := by
  cases stmt with
  | none => exact .pure ()
  | some stmt =>
    simp only [Option.toList, executeAll]
    exact .bind (execute_metered h stmt) fun _ => .pure ()

theorem executeAll_metered (h : context.Widens wider) (body : List Stmt) :
    Metered context 0 (executeAll context body) (executeAll wider body) := by
  cases body with
  | nil => exact .pure ()
  | cons first rest =>
    simp only [executeAll]
    exact .bind (execute_metered h first) fun _ => executeAll_metered h rest

end

end Statements

/-! ## Whole runs -/

/-- What a run gives, by how its body ends. -/
def outcome : Except Stop Unit → Except Failure Value
  | .ok () => .ok .null
  | .error (.returned value) => .ok value
  | .error (.failed failure) => .error failure.outOfRun

/-- A body in a scope of its own. -/
def runBody (context : Context) (body : List Stmt) (machine : Machine) : Ending Unit :=
  (Run.inNewScope (executeAll context body)).run machine

theorem run_eq (context : Context) (body : List Stmt) (machine : Machine) :
    run context body machine =
      (outcome (runBody context body machine).1, (runBody context body machine).2) := by
  unfold run
  change _ = (outcome ((Run.inNewScope (executeAll context body)).run.run machine).1,
    ((Run.inNewScope (executeAll context body)).run.run machine).2)
  rcases (Run.inNewScope (executeAll context body)).run.run machine with ⟨(_ | _) | _, _⟩ <;> rfl

/-- A run is out of steps when its body is. -/
theorem outcome_eq_stepBudget {result : Except Stop Unit} {limit : Int} :
    outcome result = .error (.program (.stepBudget limit)) ↔
      result = .error (.failed (.program (.stepBudget limit))) := by
  rcases result with (_ | failure) | _
  · simp [outcome]
  · cases failure <;> simp [outcome, Failure.outOfRun]
  · simp [outcome]

theorem runBody_inStep {context wider : Context} (h : context.Widens wider) (body : List Stmt)
    {machine : Machine} (hfresh : machine.steps = 0) :
    InStep context 0 (runBody context body machine) (runBody wider body machine) :=
  ((executeAll_metered h body).inNewScope.inStep machine (by omega)).mono (Nat.zero_le _)

/-- A run that is not cut off stays within its budget. -/
theorem runBody_steps_le {context : Context} {body : List Stmt} {machine : Machine}
    (hfresh : machine.steps = 0)
    (hdone : (run context body machine).1 ≠ .error (.program (.stepBudget context.maxSteps))) :
    (runBody context body machine).2.steps ≤ context.budget := by
  by_contra hbeyond
  have hcut := (runBody_inStep (.refl context) body hfresh).exhausted_of_lt (by omega)
  rw [run_eq] at hdone
  exact hdone (outcome_eq_stepBudget.mpr hcut.1)

/-- A budget only cuts runs off. A run that a budget does not cut off is the run with every budget
that allows its steps: it gives the same, and ends in the same state, with the same lists and
records, the same log and the same steps. Every smaller budget cuts it off. -/
theorem budget_only_cuts (world : World) (body : List Stmt) (machine : Machine)
    (hfresh : machine.steps = 0) (n : Int)
    (hdone : (run ⟨world, n⟩ body machine).1 ≠ .error (.program (.stepBudget n))) :
    (∀ m : Int, (run ⟨world, n⟩ body machine).2.steps ≤ m →
      run ⟨world, m⟩ body machine = run ⟨world, n⟩ body machine) ∧
    (∀ m : Int, 0 ≤ m → m < (run ⟨world, n⟩ body machine).2.steps →
      (run ⟨world, m⟩ body machine).1 = .error (.program (.stepBudget m))) := by
  have hsteps : (runBody ⟨world, n⟩ body machine).2.steps ≤ n.toNat :=
    runBody_steps_le hfresh hdone
  simp only [run_eq]
  constructor
  · intro m hm
    suffices runBody ⟨world, m⟩ body machine = runBody ⟨world, n⟩ body machine by rw [this]
    obtain hle | hle := Nat.le_total n.toNat m.toNat
    · have hwider : Context.Widens ⟨world, n⟩ ⟨world, m⟩ := ⟨rfl, hle⟩
      exact ((runBody_inStep hwider body hfresh).eq_of_le (.inl hsteps)).symm
    · have hwider : Context.Widens ⟨world, m⟩ ⟨world, n⟩ := ⟨rfl, hle⟩
      exact (runBody_inStep hwider body hfresh).eq_of_le (.inr (by
        simp only [Context.budget] at hm ⊢
        omega))
  · intro m hzero hm
    have hlt : m.toNat < (runBody ⟨world, n⟩ body machine).2.steps := by omega
    have hwider : Context.Widens ⟨world, m⟩ ⟨world, n⟩ := ⟨rfl, by
      simp only [Context.budget]
      omega⟩
    have hcut := (runBody_inStep hwider body hfresh).exhausted_of_lt hlt
    exact outcome_eq_stepBudget.mpr hcut.1

/-- A loop that goes round once, and leaves a text in a list. -/
def roundOnce : List Stmt :=
  [.declare .letName "going" (some (.literal (.bool true))),
    .loop (.read (.name "going")) (.block
      [.expr (.call (.read (.member (.read (.name "seen")) "push" false)) [.literal (.str "a")]),
        .expr (.assign (.name "going") none (.literal (.bool false)))])]

/-- The state in which it starts, with an empty list. -/
def roundOnceStart : Machine :=
  .start ⟨#[.list #[]]⟩ 0 [("seen", .list 0)]

theorem roundOnce_budget :
    roundOnceStart.steps = 0 ∧
      run ⟨.none, 7⟩ roundOnce roundOnceStart = run ⟨.none, 20⟩ roundOnce roundOnceStart ∧
      (run ⟨.none, 6⟩ roundOnce roundOnceStart).1 = .error (.program (.stepBudget 6)) := by
  have hgives : (run ⟨.none, 20⟩ roundOnce roundOnceStart).1 = .ok .null := by rfl
  have hsteps : (run ⟨.none, 20⟩ roundOnce roundOnceStart).2.steps = 7 := by decide
  obtain ⟨hlarge, hsmall⟩ :=
    budget_only_cuts .none roundOnce roundOnceStart rfl 20 (by simp [hgives])
  exact ⟨rfl, hlarge 7 (by omega), hsmall 6 (by omega) (by omega)⟩

end Canvasflow.Program
