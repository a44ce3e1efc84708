import Canvasflow.Proofs.Program.Abreast

/-!
# Loops spelled out

A loop with a start, a test and an update does what the block does that holds the start and a plain
loop, each round of which is a block of the body and the update. The block takes more steps, and it
executes body and update in one more scope. Nothing is declared there, because the body is a block
and the update an expression, so every name means the same in it (`Pairing.shut`). The two therefore
go abreast, the block ahead in its steps, until the budget cuts it off (`spelledOut_abreast`).
-/

namespace Canvasflow.Program

/-! ## One more scope, and one more step -/

/-- The pairing of two runs of which the first has entered one more scope, which stays empty. -/
def Pairing.shut (P : Pairing) : Pairing where
  steps := P.steps
  scopes scopes others := ∃ outer, scopes = ⟨[], []⟩ :: outer ∧ P.scopes outer others

/-- A pairing in which the first run may take a step alone. -/
structure Pairing.Ahead (P : Pairing) : Prop extends P.Paced where
  alone {m n : Nat} : P.steps m n → P.steps (m + 1) n

section Ahead

variable {context : Context} {P : Pairing} {allowed : String → Prop}

theorem Pairing.Ahead.inside (h : P.Ahead) : P.inside.Ahead :=
  ⟨h.toPaced.inside, h.alone⟩

theorem Pairing.Ahead.shut (h : P.Ahead) : P.shut.Ahead :=
  ⟨⟨h.behind, h.next⟩, h.alone⟩

/-- What is read and written passes through an empty scope. -/
theorem Pairing.Reads.shut (h : P.Reads allowed) : P.shut.Reads allowed where
  lookup {_ _ name} hscopes hname := by
    obtain ⟨outer, rfl, hscopes⟩ := hscopes
    have hpassed : Run.lookup? name (⟨[], []⟩ :: outer) = Run.lookup? name outer := rfl
    rw [hpassed, h.lookup hscopes hname]
  assign {_ others name} value hscopes hname := by
    obtain ⟨outer, rfl, hscopes⟩ := hscopes
    have habsent : Entries.has name ([] : Entries Value) = false := rfl
    have hagree := h.assign value hscopes hname
    rw [Run.assignIn_cons, habsent, if_neg Bool.false_ne_true]
    generalize Run.assignIn name value outer = result,
      Run.assignIn name value others = result' at hagree ⊢
    cases hagree with
    | ok hnext => exact .ok ⟨_, rfl, hnext⟩
    | error hfault => exact .error hfault

theorem Abreast.tickAlone {α : Type} (hahead : P.Ahead) {first second : Run α}
    (h : Abreast context P first second) :
    Abreast context P (do Run.tick context; first) second := by
  intro machine other hm
  have hnext : P.Machines { machine with steps := machine.steps + 1 } other :=
    ⟨hahead.alone hm.steps, hm.scopes,
      congrArg (fun m : Machine => { m with steps := m.steps + 1 }) hm.same⟩
  rw [Stateful.run_bind, Run.run_tick]
  by_cases hover : context.budget < machine.steps + 1
  · rw [if_pos hover]
    exact .cut rfl hover ⟨other, hnext⟩
  · rw [if_neg hover]
    exact h _ _ hnext

theorem Abreast.enterAlone {α : Type} {first second : Run α}
    (h : Abreast context P.shut first second) :
    Abreast context P (Run.inNewScope first) second := by
  intro machine other hm
  have hentered : P.shut.Machines machine.enter other :=
    ⟨hm.steps, ⟨machine.scopes, rfl, hm.scopes⟩, congrArg Machine.enter hm.same⟩
  rw [Run.run_inNewScope]
  refine (h _ _ hentered).map Machine.leave id Machine.leave_steps fun first second hstates => ?_
  obtain ⟨outer, hscopes, hpaired⟩ := hstates.scopes
  have hleft : first.leave.scopes = outer := by
    rw [Machine.leave, hscopes]
    rfl
  exact ⟨hstates.steps, hleft ▸ hpaired, congrArg Machine.leave hstates.same⟩

end Ahead

/-! ## The two forms of a loop -/

/-- A round of a loop as one statement: the body, and behind it the update. -/
def Stmt.round (body : List Stmt) (next : Option Expr) : Stmt :=
  .block (.block body :: (next.map Stmt.expr).toList)

/-- A loop as a block that holds its start and a plain loop; a test that is left out is one that
always holds. -/
def Stmt.spelledOut (start : Option Stmt) (test next : Option Expr) (body : List Stmt) : Stmt :=
  .block (start.toList ++ [.loop (test.getD (.literal (.bool true))) (.round body next)])

section Forms

variable {context : Context} {P : Pairing}

theorem holds_getD (test : Option Expr) :
    holds context (some (test.getD (.literal (.bool true)))) = holds context test := by
  cases test with
  | none => rfl
  | some expr => rfl

/-- Body and update in one more scope go abreast with body and update. -/
theorem bodyAndUpdate_abreast (hahead : P.Ahead) (hreads : P.Reads fun _ => True)
    (body : List Stmt) (next : Option Expr) :
    Abreast context P (executeAll context (.block body :: (next.map Stmt.expr).toList))
      (do execute context (.block body); let _ ← valueOf? context next) := by
  have hbody : Abreast context P (execute context (.block body)) (execute context (.block body)) :=
    block_abreast hahead.toPaced hreads body fun _ _ => trivial
  rw [executeAll]
  refine .bind hbody fun _ => ?_
  cases next with
  | none => exact .pure ()
  | some update =>
    have hupdate : Abreast context P (valueOf context update) (valueOf context update) :=
      valueOf_abreast hahead.toPaced hreads update fun _ _ => trivial
    simp only [Option.map_some, Option.toList, executeAll, execute, bind_assoc, pure_bind]
    exact .tickAlone hahead (.bind hupdate fun _ => .pure ())

theorem round_abreast (hahead : P.Ahead) (hreads : P.Reads fun _ => True) (body : List Stmt)
    (next : Option Expr) :
    Abreast context P (do execute context (.round body next); advance context none)
      (do execute context (.block body); advance context next) := by
  have hround : Abreast context P (execute context (.round body next))
      (do execute context (.block body); let _ ← valueOf? context next) := by
    rw [Stmt.round, execute]
    exact .tickAlone hahead (.enterAlone (bodyAndUpdate_abreast hahead.shut hreads.shut body next))
  have htick : Abreast context P (Run.tick context) (Run.tick context) := .tick hahead.toPaced
  have hrounds := hround.bind fun _ => htick
  rw [advance_none]
  simpa only [advance, bind_assoc, pure_bind] using hrounds

/-- A loop that is spelled out goes abreast with the loop itself, ahead in its steps. -/
theorem spelledOut_abreast (hahead : P.Ahead) (hreads : P.Reads fun _ => True)
    (start : Option Stmt) (test next : Option Expr) (body : List Stmt) :
    Abreast context P (execute context (.spelledOut start test next body))
      (execute context (.iterate start test next (.block body))) := by
  have hahead' := hahead.inside
  have hserves : P.inside.Serves fun _ => True :=
    Pairing.inside_serves hahead.toPaced hreads
  have hloop : Abreast context P.inside
      (Run.repeatWhile (holds context test)
        (do execute context (.round body next); advance context none) (context.budget + 1))
      (Run.repeatWhile (holds context test)
        (do execute context (.block body); advance context next) (context.budget + 1)) :=
    .repeatWhile (holds_abreast hserves.toPaced hserves.toReads test fun _ _ => trivial)
      (round_abreast hahead' hserves.toReads body next) _
  rw [Stmt.spelledOut, execute, executeAll_append, execute_iterate]
  refine .bind (.tick hahead.toPaced) fun _ => .inNewScope
    (.bind (executeOption_abreast start hserves fun _ _ => trivial) fun _ => ?_)
  simp only [executeAll, execute_loop, holds_getD, bind_assoc, bind_pure_unit]
  exact .tickAlone hahead' hloop

end Forms

/-! ## Loops and their spelled out forms -/

/-- The pairing of two runs in the same scopes of which the first may be ahead in its steps. -/
def Pairing.ahead : Pairing where
  steps m n := n ≤ m
  scopes scopes others := scopes = others

theorem Pairing.ahead_ahead : ahead.Ahead where
  behind h := h
  next h := Nat.succ_le_succ h
  alone h := Nat.le_succ_of_le h

theorem Pairing.ahead_reads : ahead.Reads fun _ => True where
  lookup hscopes _ := congrArg _ hscopes
  assign value hscopes _ := by
    obtain rfl : _ = _ := hscopes
    exact .refl (fun _ => rfl) _

/-- An ending for want of steps. -/
def CutOff {α : Type} (context : Context) (ending : Ending α) : Prop :=
  ending.1 = .error (.failed (.program (.stepBudget context.maxSteps))) ∧
    context.budget < ending.2.steps

/-- In every state, a loop and the block that spells it out have one outcome, a value that is
returned, a failure or none, and they leave one state apart from the steps that were taken: the same
variables in every scope, the same lists and records, and the same log. This holds unless the block
runs out of its budget; when it does not, the loop does not either, since it takes no more steps. -/
theorem execute_spelledOut (context : Context) (start : Option Stmt) (test next : Option Expr)
    (body : List Stmt) (machine : Machine)
    (hwithin : ¬ CutOff context ((execute context (.spelledOut start test next body)).run machine)) :
    let block := (execute context (.spelledOut start test next body)).run machine
    let loop := (execute context (.iterate start test next (.block body))).run machine
    loop.1 = block.1 ∧ loop.2.steps ≤ block.2.steps ∧
      block.2 = { loop.2 with steps := block.2.steps } := by
  intro block loop
  have htogether : Together context .ahead block loop :=
    spelledOut_abreast Pairing.ahead_ahead Pairing.ahead_reads start test next body machine machine
      ⟨Nat.le_refl _, rfl, rfl⟩
  cases htogether with
  | cut hstop hover => exact absurd ⟨hstop, hover⟩ hwithin
  | same houtcome hstates =>
    have hscopes : block.2.scopes = loop.2.scopes := hstates.scopes
    have hsame := hstates.same
    rw [hscopes] at hsame
    exact ⟨houtcome.symm, hstates.steps, hsame.symm⟩

/-- The body of a loop over `i` that declares its own `i` and writes it to a name outside. -/
def shadowing : List Stmt :=
  [.declare .letName "i" (some (.literal (.str "x"))),
    .expr (.assign (.name "s") none (.read (.name "i")))]

theorem execute_spelledOut_shadowing :
    let start : Stmt := .declare .letName "i" (some (.literal (.bool true)))
    let test : Expr := .read (.name "i")
    let next : Expr := .assign (.name "i") none (.literal (.bool false))
    let machine := Machine.start .empty 0 [("s", .null)]
    let block := (execute ⟨.none, 20⟩ (.spelledOut start test next shadowing)).run machine
    let loop := (execute ⟨.none, 20⟩ (.iterate start test next (.block shadowing))).run machine
    ¬ CutOff ⟨.none, 20⟩ block ∧
      loop.1 = block.1 ∧ loop.2.steps ≤ block.2.steps ∧
      block.2 = { loop.2 with steps := block.2.steps } ∧
      Run.lookup? "s" loop.2.scopes = some (.str "x") := by
  intro start test next machine block loop
  have hends : block.1 = .ok () := by rfl
  have hwithin : ¬ CutOff ⟨.none, 20⟩ block := by
    intro hover
    rw [CutOff, hends] at hover
    cases hover.1
  obtain ⟨houtcome, hsteps, hstate⟩ :=
    execute_spelledOut ⟨.none, 20⟩ start test next shadowing machine hwithin
  exact ⟨hwithin, houtcome, hsteps, hstate, by rfl⟩

end Canvasflow.Program
