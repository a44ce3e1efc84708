import Canvasflow.Proofs.Program.Budget

/-!
# The termination of runs

What statements do, as a relation between the states in which they start and their endings. Its
loops go round without a bound, so a derivation is a run that ends. `executes_iff` shows that every
statement has exactly one ending, the one that `execute` computes, and `Repeats.steps_le` that a
loop spends a step on each of its rounds, whatever its test, its update and its body are.
-/

namespace Canvasflow.Program

mutual

/-- `Executes context stmt machine ending` says that a statement leads from a state to an ending:
it takes a step and, if the budget allows the step, acts. -/
inductive Executes (context : Context) : Stmt → Machine → Ending Unit → Prop
  | unpaid {stmt machine stop final} :
      (Run.tick context).run machine = (.error stop, final) →
      Executes context stmt machine (.error stop, final)
  | paid {stmt machine next ending} :
      (Run.tick context).run machine = (.ok (), next) → Acts context stmt next ending →
      Executes context stmt machine ending

/-- `Acts context stmt machine ending` says that a statement whose step is taken leads from a state
to an ending. -/
inductive Acts (context : Context) : Stmt → Machine → Ending Unit → Prop
  | declare {declarator name value machine} :
      Acts context (.declare declarator name value) machine
        ((do Run.declare declarator name (← valueOf? context value)).run machine)
  | expr {value machine} :
      Acts context (.expr value) machine ((do let _ ← valueOf context value).run machine)
  | block {body machine result final} :
      ExecutesAll context body machine.enter (result, final) →
      Acts context (.block body) machine (result, final.leave)
  | testStops {test yes no machine stop final} :
      (holds context (some test)).run machine = (.error stop, final) →
      Acts context (.cond test yes no) machine (.error stop, final)
  | yes {test yes no machine next ending} :
      (holds context (some test)).run machine = (.ok true, next) →
      Executes context yes next ending → Acts context (.cond test yes no) machine ending
  | no {test yes no machine next ending} :
      (holds context (some test)).run machine = (.ok false, next) →
      ExecutesAll context no.toList next ending → Acts context (.cond test yes no) machine ending
  | loop {test body rounds machine ending} :
      Repeats context (some test) none body rounds machine ending →
      Acts context (.loop test body) machine ending
  | startStops {start test next body machine stop final} :
      ExecutesAll context start.toList machine.enter (.error stop, final) →
      Acts context (.iterate start test next body) machine (.error stop, final.leave)
  | iterate {start test next body rounds machine first result final} :
      ExecutesAll context start.toList machine.enter (.ok (), first) →
      Repeats context test next body rounds first (result, final) →
      Acts context (.iterate start test next body) machine (result, final.leave)
  | ret {value machine} :
      Acts context (.ret value) machine
        ((do throw (.returned (← valueOf? context value)) : Run Unit).run machine)
  | empty {machine} : Acts context .empty machine (.ok (), machine)

/-- `ExecutesAll context body machine ending` says that some statements, one after another, lead
from a state to an ending. -/
inductive ExecutesAll (context : Context) : List Stmt → Machine → Ending Unit → Prop
  | nil {machine} : ExecutesAll context [] machine (.ok (), machine)
  | stops {first rest machine stop final} :
      Executes context first machine (.error stop, final) →
      ExecutesAll context (first :: rest) machine (.error stop, final)
  | cons {first rest machine next ending} :
      Executes context first machine (.ok (), next) → ExecutesAll context rest next ending →
      ExecutesAll context (first :: rest) machine ending

/-- `Repeats context test next body rounds machine ending` says that a loop, in which `next` stands
between two rounds, enters so many rounds and leads from a state to an ending. -/
inductive Repeats (context : Context) :
    Option Expr → Option Expr → Stmt → Nat → Machine → Ending Unit → Prop
  | testStops {test next body machine stop final} :
      (holds context test).run machine = (.error stop, final) →
      Repeats context test next body 0 machine (.error stop, final)
  | finishes {test next body machine final} :
      (holds context test).run machine = (.ok false, final) →
      Repeats context test next body 0 machine (.ok (), final)
  | bodyStops {test next body machine tested stop final} :
      (holds context test).run machine = (.ok true, tested) →
      Executes context body tested (.error stop, final) →
      Repeats context test next body 1 machine (.error stop, final)
  | nextStops {test next body machine tested acted stop final} :
      (holds context test).run machine = (.ok true, tested) →
      Executes context body tested (.ok (), acted) →
      (advance context next).run acted = (.error stop, final) →
      Repeats context test next body 1 machine (.error stop, final)
  | again {test next body rounds machine tested acted advanced ending} :
      (holds context test).run machine = (.ok true, tested) →
      Executes context body tested (.ok (), acted) →
      (advance context next).run acted = (.ok (), advanced) →
      Repeats context test next body rounds advanced ending →
      Repeats context test next body (rounds + 1) machine ending

end

variable {context : Context}

/-! ## Steps -/

theorem Grows.of_run {α : Type} {act : Run α} (h : Grows act) {machine final : Machine}
    {result : Except Stop α} (hrun : act.run machine = (result, final)) :
    machine.steps ≤ final.steps := by
  have := h machine
  rwa [hrun] at this

theorem holds_grows (test : Option Expr) : Grows (holds context test) :=
  (holds_metered (.refl context) test).grows

theorem tick_steps {machine final : Machine} {result : Except Stop Unit}
    (h : (Run.tick context).run machine = (result, final)) : final.steps = machine.steps + 1 := by
  rw [Run.run_tick] at h
  cases h
  rfl

mutual

/-- A statement takes a step, whether or not the budget allows it. -/
theorem Executes.steps_lt {stmt : Stmt} {machine : Machine} {ending : Ending Unit}
    (h : Executes context stmt machine ending) : machine.steps < ending.2.steps := by
  match h with
  | .unpaid htick => exact (tick_steps htick).symm ▸ Nat.lt_succ_self _
  | .paid htick hacts =>
    have := tick_steps htick
    have := hacts.steps_le
    omega

theorem Acts.steps_le {stmt : Stmt} {machine : Machine} {ending : Ending Unit}
    (h : Acts context stmt machine ending) : machine.steps ≤ ending.2.steps := by
  match h with
  | .declare =>
    exact ((valueOf?_metered (.refl context) _).bind fun value =>
      .aside (Run.declare_aside _ _ value)).grows machine
  | .expr => exact ((valueOf_metered (.refl context) _).bind fun _ => .pure ()).grows machine
  | .block hbody => exact hbody.steps_le
  | .testStops htest => exact (holds_grows _).of_run htest
  | .yes htest hyes => exact ((holds_grows _).of_run htest).trans hyes.steps_lt.le
  | .no htest hno => exact ((holds_grows _).of_run htest).trans hno.steps_le
  | .loop hloop =>
    have := hloop.steps_le
    omega
  | .startStops hstart => exact hstart.steps_le
  | .iterate hstart hloop =>
    have hstarted := hstart.steps_le
    have hended := hloop.steps_le
    simp only [Machine.enter_steps, Machine.leave_steps] at hstarted hended ⊢
    omega
  | .ret =>
    exact ((valueOf?_metered (.refl context) _).bind fun value =>
      .aside (Run.returned_aside value)).grows machine
  | .empty => exact le_rfl

theorem ExecutesAll.steps_le {body : List Stmt} {machine : Machine} {ending : Ending Unit}
    (h : ExecutesAll context body machine ending) : machine.steps ≤ ending.2.steps := by
  match h with
  | .nil => exact le_rfl
  | .stops hfirst => exact hfirst.steps_lt.le
  | .cons hfirst hrest => exact hfirst.steps_lt.le.trans hrest.steps_le

/-- Every round that a loop enters takes a step, whatever its test, its update and its body are. -/
theorem Repeats.steps_le {test next : Option Expr} {body : Stmt} {rounds : Nat} {machine : Machine}
    {ending : Ending Unit} (h : Repeats context test next body rounds machine ending) :
    machine.steps + rounds ≤ ending.2.steps := by
  match h with
  | .testStops htest | .finishes htest => exact (holds_grows test).of_run htest
  | .bodyStops htest hbody =>
    exact Nat.lt_of_le_of_lt ((holds_grows test).of_run htest) hbody.steps_lt
  | .nextStops htest hbody hnext =>
    have htested := (holds_grows test).of_run htest
    have hacted := hbody.steps_lt
    have hadvanced := (advance_metered (.refl context) next).grows.of_run hnext
    dsimp only at hacted ⊢
    omega
  | .again htest hbody hnext hrest =>
    have htested := (holds_grows test).of_run htest
    have hacted := hbody.steps_lt
    have hadvanced := (advance_metered (.refl context) next).grows.of_run hnext
    have hended := hrest.steps_le
    dsimp only at hacted
    omega

end

/-! ## Every statement ends -/

/-- A part of a run that succeeds stays within the budget. -/
theorem Metered.of_ok {α : Type} {cost : Nat} {act : Run α} (h : Metered context cost act act)
    {machine final : Machine} {a : α} (hm : machine.steps ≤ context.budget)
    (hrun : act.run machine = (.ok a, final)) :
    machine.steps + cost ≤ final.steps ∧ final.steps ≤ context.budget := by
  have hstep := h.inStep machine hm
  rw [hrun] at hstep
  cases hstep with
  | same hpaid hwithin => exact ⟨hpaid a rfl, hwithin⟩
  | cut hcut => cases hcut.1

/-- A loop ends: the steps that are left, and one more, are rounds enough. -/
theorem exists_repeats {test next : Option Expr} {body : Stmt}
    (hbody : ∀ machine, Executes context body machine ((execute context body).run machine))
    (count : Nat) (machine : Machine) (hm : machine.steps ≤ context.budget)
    (hcount : context.budget - machine.steps < count) :
    ∃ rounds, Repeats context test next body rounds machine
      ((Run.repeatWhile (holds context test) (do execute context body; advance context next)
        count).run machine) := by
  induction count generalizing machine with
  | zero => omega
  | succ count ih =>
    rw [Run.repeatWhile]
    rcases htest : (holds context test).run machine with ⟨stop | holding, tested⟩
    · rw [Stateful.run_bind_error htest]
      exact ⟨0, .testStops htest⟩
    rw [Stateful.run_bind_ok htest]
    have htested := (holds_metered (.refl context) test).of_ok hm htest
    cases holding with
    | false => exact ⟨0, .finishes htest⟩
    | true =>
      have hacts := hbody tested
      simp only [if_true]
      rcases hacted : (execute context body).run tested with ⟨stop | _, acted⟩
      · rw [Stateful.run_bind_error (Stateful.run_bind_error hacted)]
        exact ⟨1, .bodyStops htest (hacted ▸ hacts)⟩
      have hwithin := (execute_metered (.refl context) body).of_ok htested.2 hacted
      rcases hnext : (advance context next).run acted with ⟨stop | _, advanced⟩
      · rw [Stateful.run_bind_error ((Stateful.run_bind_ok hacted).trans hnext)]
        exact ⟨1, .nextStops htest (hacted ▸ hacts) hnext⟩
      have hpaid := (advance_metered (.refl context) next).of_ok hwithin.2 hnext
      rw [Stateful.run_bind_ok ((Stateful.run_bind_ok hacted).trans hnext)]
      obtain ⟨rounds, hrest⟩ := ih advanced hpaid.2 (by omega)
      exact ⟨rounds + 1, .again htest (hacted ▸ hacts) hnext hrest⟩

theorem steps_le_of_tick {machine next : Machine}
    (h : (Run.tick context).run machine = (.ok (), next)) : next.steps ≤ context.budget := by
  rw [Run.run_tick] at h
  split at h
  · cases h
  · cases h
    dsimp only
    omega

theorem Executes.of_acts {stmt : Stmt} {rest : Unit → Run Unit} {machine : Machine}
    (hacts : ∀ next, next.steps ≤ context.budget → Acts context stmt next ((rest ()).run next)) :
    Executes context stmt machine ((Run.tick context >>= rest).run machine) := by
  rcases htick : (Run.tick context).run machine with ⟨stop | _, next⟩
  · rw [Stateful.run_bind_error htick]
    exact .unpaid htick
  · rw [Stateful.run_bind_ok htick]
    exact .paid htick (hacts next (steps_le_of_tick htick))

/-- Every statement takes a step first. -/
theorem exists_execute_eq (stmt : Stmt) :
    ∃ rest, execute context stmt = Run.tick context >>= rest := by
  cases stmt with
  | cond test yes no => exact ⟨_, execute_cond test yes no⟩
  | iterate start test next body => exact ⟨_, execute_iterate start test next body⟩
  | empty => exact ⟨_, execute_empty⟩
  | _ => exact ⟨_, by rw [execute]⟩

theorem ExecutesAll.of_executes {first : Stmt} {rest : List Stmt} {machine : Machine}
    (hfirst : Executes context first machine ((execute context first).run machine))
    (hrest : ∀ next, ExecutesAll context rest next ((executeAll context rest).run next)) :
    ExecutesAll context (first :: rest) machine
      ((executeAll context (first :: rest)).run machine) := by
  simp only [executeAll]
  rcases hrun : (execute context first).run machine with ⟨stop | _, next⟩
  · rw [Stateful.run_bind_error hrun]
    exact .stops (hrun ▸ hfirst)
  · rw [Stateful.run_bind_ok hrun]
    exact .cons (hrun ▸ hfirst) (hrest next)

theorem Acts.of_test {test : Expr} {yes : Stmt} {no : Option Stmt} {machine : Machine}
    (hyes : ∀ next, Executes context yes next ((execute context yes).run next))
    (hno : ∀ next, ExecutesAll context no.toList next ((executeAll context no.toList).run next)) :
    Acts context (.cond test yes no) machine ((do
      if ← holds context (some test) then execute context yes
      else executeAll context no.toList).run machine) := by
  rcases htest : (holds context (some test)).run machine with ⟨stop | holding, next⟩
  · rw [Stateful.run_bind_error htest]
    exact .testStops htest
  · rw [Stateful.run_bind_ok htest]
    cases holding with
    | true => exact .yes htest (hyes next)
    | false => exact .no htest (hno next)

theorem Acts.of_start {start : Option Stmt} {test next : Option Expr} {body : Stmt}
    {machine : Machine} (hm : machine.steps ≤ context.budget)
    (hstart : ExecutesAll context start.toList machine.enter
      ((executeAll context start.toList).run machine.enter))
    (hbody : ∀ machine, Executes context body machine ((execute context body).run machine)) :
    Acts context (.iterate start test next body) machine ((Run.inNewScope do
      executeAll context start.toList
      Run.repeatWhile (holds context test) (do execute context body; advance context next)
        (context.budget + 1)).run machine) := by
  rw [Run.run_inNewScope]
  rcases hfirst : (executeAll context start.toList).run machine.enter with ⟨stop | _, first⟩
  · rw [Stateful.run_bind_error hfirst]
    exact .startStops (hfirst ▸ hstart)
  · rw [Stateful.run_bind_ok hfirst]
    have hwithin := (executeAll_metered (.refl context) start.toList).of_ok
      (show machine.enter.steps ≤ context.budget from hm) hfirst
    obtain ⟨rounds, hrounds⟩ := exists_repeats hbody (context.budget + 1) first hwithin.2 (by omega)
    exact .iterate (hfirst ▸ hstart) hrounds

mutual

theorem executes_execute (stmt : Stmt) (machine : Machine) :
    Executes context stmt machine ((execute context stmt).run machine) := by
  cases stmt with
  | declare declarator name value =>
    simp only [execute]
    exact .of_acts fun next _ => .declare
  | expr value =>
    simp only [execute]
    exact .of_acts fun next _ => .expr
  | block body =>
    simp only [execute]
    refine .of_acts fun next _ => ?_
    rw [Run.run_inNewScope]
    exact .block (executesAll_executeAll body next.enter)
  | cond test yes no =>
    rw [execute_cond]
    exact .of_acts fun next _ => .of_test (executes_execute yes) (executesAll_toList no)
  | loop test body =>
    rw [execute_loop]
    refine .of_acts fun next hnext => ?_
    obtain ⟨rounds, hrounds⟩ :=
      exists_repeats (executes_execute body) (context.budget + 1) next hnext (by omega)
    exact .loop hrounds
  | iterate start test next body =>
    rw [execute_iterate]
    exact .of_acts fun entered hentered =>
      .of_start hentered (executesAll_toList start _) (executes_execute body)
  | ret value =>
    simp only [execute]
    exact .of_acts fun next _ => .ret
  | empty =>
    rw [execute_empty]
    exact .of_acts fun next _ => .empty

theorem executesAll_toList (stmt : Option Stmt) (machine : Machine) :
    ExecutesAll context stmt.toList machine ((executeAll context stmt.toList).run machine) := by
  cases stmt with
  | none => exact .nil
  | some stmt => exact .of_executes (executes_execute stmt machine) fun _ => .nil

theorem executesAll_executeAll (body : List Stmt) (machine : Machine) :
    ExecutesAll context body machine ((executeAll context body).run machine) := by
  cases body with
  | nil => exact .nil
  | cons first rest =>
    exact .of_executes (executes_execute first machine) (executesAll_executeAll rest)

end

/-! ## Every ending is the one computed -/

mutual

theorem Executes.eq_execute {stmt : Stmt} {machine : Machine} {ending : Ending Unit}
    (h : Executes context stmt machine ending) : ending = (execute context stmt).run machine := by
  match h with
  | .unpaid htick =>
    obtain ⟨rest, hrest⟩ := exists_execute_eq stmt
    rw [hrest, Stateful.run_bind_error htick]
  | .paid htick hacts => exact hacts.eq_execute htick

theorem Acts.eq_execute {stmt : Stmt} {before machine : Machine} {ending : Ending Unit}
    (h : Acts context stmt machine ending)
    (htick : (Run.tick context).run before = (.ok (), machine)) :
    ending = (execute context stmt).run before := by
  match h with
  | .declare | .expr | .ret =>
    rw [execute, Stateful.run_bind_ok htick]
  | .block hbody =>
    rw [execute, Stateful.run_bind_ok htick, Run.run_inNewScope, ← hbody.eq_executeAll]
  | .testStops htest =>
    rw [execute_cond, Stateful.run_bind_ok htick, Stateful.run_bind_error htest]
  | .yes htest hyes =>
    rw [execute_cond, Stateful.run_bind_ok htick, Stateful.run_bind_ok htest]
    exact hyes.eq_execute
  | .no htest hno =>
    rw [execute_cond, Stateful.run_bind_ok htick, Stateful.run_bind_ok htest]
    exact hno.eq_executeAll
  | .loop hloop =>
    rw [execute_loop, Stateful.run_bind_ok htick]
    exact hloop.eq_repeatWhile (steps_le_of_tick htick) (by omega)
  | .startStops hstart =>
    rw [execute_iterate, Stateful.run_bind_ok htick, Run.run_inNewScope,
      Stateful.run_bind_error hstart.eq_executeAll.symm]
  | .iterate hstart hloop =>
    have hrun := hstart.eq_executeAll.symm
    have hpaid := steps_le_of_tick htick
    have hentered : machine.enter.steps ≤ context.budget := hpaid
    have hwithin := (executeAll_metered (.refl context) _).of_ok hentered hrun
    rw [execute_iterate, Stateful.run_bind_ok htick, Run.run_inNewScope,
      Stateful.run_bind_ok hrun, ← hloop.eq_repeatWhile hwithin.2 (by omega)]
  | .empty => rw [execute_empty, Stateful.run_bind_ok htick]; rfl

theorem ExecutesAll.eq_executeAll {body : List Stmt} {machine : Machine} {ending : Ending Unit}
    (h : ExecutesAll context body machine ending) :
    ending = (executeAll context body).run machine := by
  match h with
  | .nil => rfl
  | .stops hfirst => rw [executeAll, Stateful.run_bind_error hfirst.eq_execute.symm]
  | .cons hfirst hrest =>
    rw [executeAll, Stateful.run_bind_ok hfirst.eq_execute.symm]
    exact hrest.eq_executeAll

theorem Repeats.eq_repeatWhile {test next : Option Expr} {body : Stmt} {rounds count : Nat}
    {machine : Machine} {ending : Ending Unit}
    (h : Repeats context test next body rounds machine ending)
    (hm : machine.steps ≤ context.budget) (hcount : context.budget - machine.steps < count) :
    ending = (Run.repeatWhile (holds context test)
      (do execute context body; advance context next) count).run machine := by
  obtain _ | count := count
  · omega
  rw [Run.repeatWhile]
  match h with
  | .testStops htest => rw [Stateful.run_bind_error htest]
  | .finishes htest => rw [Stateful.run_bind_ok htest]; rfl
  | .bodyStops htest hbody =>
    rw [Stateful.run_bind_ok htest, if_pos rfl,
      Stateful.run_bind_error (Stateful.run_bind_error hbody.eq_execute.symm)]
  | .nextStops htest hbody hnext =>
    rw [Stateful.run_bind_ok htest, if_pos rfl,
      Stateful.run_bind_error ((Stateful.run_bind_ok hbody.eq_execute.symm).trans hnext)]
  | .again htest hbody hnext hrest =>
    have hacted := hbody.eq_execute.symm
    have htested := (holds_metered (.refl context) test).of_ok hm htest
    have hwithin := (execute_metered (.refl context) body).of_ok htested.2 hacted
    have hpaid := (advance_metered (.refl context) next).of_ok hwithin.2 hnext
    rw [Stateful.run_bind_ok htest, if_pos rfl,
      Stateful.run_bind_ok ((Stateful.run_bind_ok hacted).trans hnext)]
    exact hrest.eq_repeatWhile hpaid.2 (by omega)

end

/-- A statement has one ending, the one that is computed. -/
theorem executes_iff {stmt : Stmt} {machine : Machine} {ending : Ending Unit} :
    Executes context stmt machine ending ↔ ending = (execute context stmt).run machine :=
  ⟨Executes.eq_execute, fun h => h ▸ executes_execute stmt machine⟩

theorem executesAll_iff {body : List Stmt} {machine : Machine} {ending : Ending Unit} :
    ExecutesAll context body machine ending ↔ ending = (executeAll context body).run machine :=
  ⟨ExecutesAll.eq_executeAll, fun h => h ▸ executesAll_executeAll body machine⟩

/-! ## Every run ends -/

/-- `Runs context body machine result` says that a run of a body leads from a state to a result. -/
inductive Runs (context : Context) (body : List Stmt) (machine : Machine) :
    Except Failure Value × Machine → Prop
  | ends {result : Except Stop Unit} {final : Machine} :
      ExecutesAll context body machine.enter (result, final) →
      Runs context body machine (outcome result, final.leave)

theorem runs_iff {body : List Stmt} {machine : Machine} {result : Except Failure Value × Machine} :
    Runs context body machine result ↔ result = run context body machine := by
  rw [run_eq, runBody, Run.run_inNewScope]
  constructor
  · rintro ⟨hbody⟩
    rw [← executesAll_iff.mp hbody]
  · rintro rfl
    exact .ends (executesAll_executeAll body machine.enter)

/-- A run takes at most one step beyond its budget. -/
theorem run_steps_le {body : List Stmt} {machine : Machine} (hfresh : machine.steps = 0) :
    (run context body machine).2.steps ≤ context.budget + 1 := by
  have hstep := runBody_inStep (.refl context) body hfresh
  rw [run_eq]
  generalize runBody context body machine = last at hstep ⊢
  cases hstep with
  | same _ hwithin => exact Nat.le_succ_of_le hwithin
  | cut hcut => exact hcut.2.le

/-- A run takes the step beyond its budget exactly when it stops for want of steps. -/
theorem run_steps_eq_iff {body : List Stmt} {machine : Machine} (hworld : context.world.OffBudget)
    (hfresh : machine.steps = 0) :
    (run context body machine).2.steps = context.budget + 1 ↔
      (run context body machine).1 = .error (.program (.stepBudget context.maxSteps)) := by
  have hstep := runBody_inStep (.refl context) body hfresh
  rw [run_eq]
  refine Iff.trans ?_ outcome_eq_stepBudget.symm
  generalize runBody context body machine = last at hstep ⊢
  cases hstep with
  | same _ hwithin hfails =>
    have hsteps : last.2.steps ≠ context.budget + 1 := by omega
    refine iff_of_false hsteps fun hstop => ?_
    have hoff := hfails _ hstop hworld
    simp at hoff
  | cut hcut => exact iff_of_true hcut.2 hcut.1

/-- Every run ends. It has one result, which takes at most one step beyond the budget, and it takes
that step exactly when it stops for want of steps. Every round that one of its loops enters takes a
step. -/
theorem run_ends (world : World) (hworld : world.OffBudget) (body : List Stmt) (machine : Machine)
    (hfresh : machine.steps = 0) (n : Nat) :
    (∀ result, Runs ⟨world, n⟩ body machine result ↔ result = run ⟨world, n⟩ body machine) ∧
    (run ⟨world, n⟩ body machine).2.steps ≤ n + 1 ∧
    ((run ⟨world, n⟩ body machine).2.steps = n + 1 ↔
      (run ⟨world, n⟩ body machine).1 = .error (.program (.stepBudget n))) ∧
    ∀ test next round rounds start ending,
      Repeats ⟨world, n⟩ test next round rounds start ending →
        start.steps + rounds ≤ ending.2.steps := by
  exact ⟨fun _ => runs_iff, run_steps_le hfresh, run_steps_eq_iff hworld hfresh,
    fun _ _ _ _ _ _ => Repeats.steps_le⟩

/-- Two loops, one in the other, without a test, an update or a body. -/
def emptyLoops : List Stmt :=
  [.iterate none none none (.iterate none none none .empty)]

theorem emptyLoops_end :
    World.none.OffBudget ∧
      (run ⟨.none, 5⟩ emptyLoops (.start .empty 0 [])).2.steps = 6 ∧
      Runs ⟨.none, 5⟩ emptyLoops (.start .empty 0 [])
        (run ⟨.none, 5⟩ emptyLoops (.start .empty 0 [])) := by
  have hfails : (run ⟨.none, (5 : Nat)⟩ emptyLoops (.start .empty 0 [])).1 =
      .error (.program (.stepBudget 5)) := by rfl
  obtain ⟨hruns, -, hsteps, -⟩ :=
    run_ends .none World.none_offBudget emptyLoops (.start .empty 0 []) rfl 5
  exact ⟨World.none_offBudget, hsteps.mpr hfails, (hruns _).mpr rfl⟩

end Canvasflow.Program
