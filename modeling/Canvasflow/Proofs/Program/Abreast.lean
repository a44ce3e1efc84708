import Canvasflow.Proofs.Program.Blind
import Canvasflow.Proofs.Program.Budget

/-!
# Runs abreast

Two runs of one program may differ in their scopes and in the steps that they have taken, and still
do the same. A `Pairing` says which scopes and which counts of steps may stand beside each other.
Two acts go `Abreast` when they lead from paired states to one outcome in paired states, or the
first, which is never ahead, is cut off by its budget. The relation is closed under sequences,
scopes and loops, so it holds of every expression and every statement whose names mean the same in
paired scopes: that is all that the two runs have to agree on.
-/

namespace Canvasflow.Program

/-! ## The names of a program -/

mutual

/-- The names that an expression reads or writes. -/
def Expr.names : Expr → List String
  | .literal _ => []
  | .read place => place.names
  | .call callee args => callee.names ++ Expr.listNames args
  | .unary _ operand => operand.names
  | .binary left _ right => left.names ++ right.names
  | .logical left _ right => left.names ++ right.names
  | .conditional test yes no => test.names ++ (yes.names ++ no.names)
  | .object entries => Entry.listNames entries
  | .array items => Expr.listNames items
  | .assign target _ value => target.names ++ value.names
  | .update target _ _ => target.names

/-- The names that expressions read or write. -/
def Expr.listNames : List Expr → List String
  | [] => []
  | first :: rest => first.names ++ Expr.listNames rest

/-- The names that stand in a place. -/
def Place.names : Place → List String
  | .name name => [name]
  | .member object _ _ => object.names
  | .index object index _ => object.names ++ index.names

/-- The names that a part of a record literal reads or writes. -/
def Entry.names : Entry → List String
  | .pair _ value | .spread value => value.names

/-- The names that the parts of a record literal read or write. -/
def Entry.listNames : List Entry → List String
  | [] => []
  | first :: rest => first.names ++ Entry.listNames rest

end

/-- The names of an expression that may be left out. -/
def Expr.optionNames : Option Expr → List String
  | none => []
  | some value => value.names

mutual

/-- The names that a statement declares, reads or writes. -/
def Stmt.names : Stmt → List String
  | .declare _ name value => name :: Expr.optionNames value
  | .expr value => value.names
  | .block body => Stmt.listNames body
  | .cond test yes no => test.names ++ (yes.names ++ Stmt.optionNames no)
  | .loop test body => test.names ++ body.names
  | .iterate start test next body =>
    Stmt.optionNames start ++ (Expr.optionNames test ++ (Expr.optionNames next ++ body.names))
  | .ret value => Expr.optionNames value
  | .empty => []

/-- The names of a statement that may be left out. -/
def Stmt.optionNames : Option Stmt → List String
  | none => []
  | some stmt => stmt.names

/-- The names that statements declare, read or write. -/
def Stmt.listNames : List Stmt → List String
  | [] => []
  | first :: rest => first.names ++ Stmt.listNames rest

end

/-! ## Changes of the scopes -/

/-- Write a name of a frame. -/
def Frame.write (name : String) (value : Value) (frame : Frame) : Except Failure Frame :=
  if frame.constants.contains name then fault (.constantAssigned name)
  else .ok { frame with values := Entries.set name value frame.values }

/-- Declare a name in a frame. -/
def Frame.declare (declarator : Declarator) (name : String) (value : Value) (frame : Frame) :
    Except Failure Frame :=
  if Entries.has name frame.values &&
      (declarator != .varName || frame.constants.contains name) then
    fault (.alreadyDeclared name)
  else .ok ⟨Entries.set name value frame.values,
    if declarator = .constName then name :: frame.constants else frame.constants⟩

namespace Run

/-- A name is written in the innermost frame that has it. -/
theorem assignIn_cons (name : String) (value : Value) (frame : Frame) (outer : List Frame) :
    assignIn name value (frame :: outer) =
      if Entries.has name frame.values then do return (← frame.write name value) :: outer
      else do return frame :: (← assignIn name value outer) := by
  rw [assignIn]
  split
  · unfold Frame.write
    split <;> rfl
  · rfl

/-- Declare a name in the innermost of some scopes. -/
def declareIn (declarator : Declarator) (name : String) (value : Value) :
    List Frame → Except Failure (List Frame)
  | [] => .ok []
  | frame :: outer => do return (← frame.declare declarator name value) :: outer

/-- Replace the scopes, unless that is refused. -/
def rescope (change : List Frame → Except Failure (List Frame)) : Run Unit := do
  let machine ← get
  let scopes ← ofExcept (change machine.scopes)
  set { machine with scopes := scopes }

theorem run_rescope (change : List Frame → Except Failure (List Frame)) (machine : Machine) :
    (rescope change).run machine =
      match change machine.scopes with
      | .ok scopes => (.ok (), { machine with scopes := scopes })
      | .error failure => (.error (.failed failure), machine) := by
  unfold rescope
  rw [Stateful.run_bind_ok (Stateful.run_get machine)]
  cases change machine.scopes <;> rfl

theorem run_declare (declarator : Declarator) (name : String) (value : Value) (machine : Machine) :
    (declare declarator name value).run machine =
      (rescope (declareIn declarator name value)).run machine := by
  rw [run_rescope]
  unfold declare
  rw [Stateful.run_bind_ok (Stateful.run_get machine)]
  obtain ⟨heap, scopes, steps, log, stamps, draws⟩ := machine
  cases scopes with
  | nil => rfl
  | cons frame outer =>
    dsimp only [declareIn, Frame.declare]
    split <;> rfl

end Run

/-! ## Pairings -/

/-- Which counts of steps and which scopes may stand beside each other in two runs. -/
structure Pairing where
  steps : Nat → Nat → Prop
  scopes : List Frame → List Frame → Prop

namespace Pairing

/-- States that differ in nothing but their steps and their scopes, which are paired. -/
structure Machines (P : Pairing) (machine other : Machine) : Prop where
  steps : P.steps machine.steps other.steps
  scopes : P.scopes machine.scopes other.scopes
  same : other.reframe machine.scopes machine.steps = machine

/-- The first run is never ahead of the second, and both take their steps together. -/
structure Paced (P : Pairing) : Prop where
  behind {m n : Nat} : P.steps m n → n ≤ m
  next {m n : Nat} : P.steps m n → P.steps (m + 1) (n + 1)

/-- Certain names mean the same in paired scopes. -/
structure Reads (P : Pairing) (allowed : String → Prop) : Prop where
  lookup {scopes others : List Frame} {name : String} : P.scopes scopes others → allowed name →
    Run.lookup? name scopes = Run.lookup? name others
  assign {scopes others : List Frame} {name : String} (value : Value) : P.scopes scopes others →
    allowed name → Agree Eq P.scopes (Run.assignIn name value scopes)
      (Run.assignIn name value others)

/-- Certain names may be declared in paired scopes. -/
structure Declares (P : Pairing) (allowed : String → Prop) : Prop where
  declare {scopes others : List Frame} {name : String} (declarator : Declarator) (value : Value) :
    P.scopes scopes others → allowed name → Agree Eq P.scopes
      (Run.declareIn declarator name value scopes) (Run.declareIn declarator name value others)

/-- Scopes with one more frame inside, the same on both sides. -/
inductive Inside (view : List Frame → List Frame → Prop) : List Frame → List Frame → Prop
  | mk (frame : Frame) {scopes others : List Frame} (h : view scopes others) :
    Inside view (frame :: scopes) (frame :: others)

/-- The pairing of two runs that have entered one more scope. -/
def inside (P : Pairing) : Pairing :=
  ⟨P.steps, Inside P.scopes⟩

variable {P : Pairing} {allowed : String → Prop} {machine other : Machine}

theorem Paced.inside (h : P.Paced) : P.inside.Paced :=
  ⟨h.behind, h.next⟩

theorem Reads.inside (h : P.Reads allowed) : P.inside.Reads allowed where
  lookup {_ _ name} hscopes hname := by
    obtain ⟨frame, hscopes⟩ := hscopes
    simp only [Run.lookup?, h.lookup hscopes hname]
  assign value hscopes hname := by
    obtain ⟨frame, hscopes⟩ := hscopes
    rw [Run.assignIn_cons, Run.assignIn_cons]
    split
    · cases frame.write _ value with
      | error => exact .error rfl
      | ok next => exact .ok (.mk next hscopes)
    · exact (h.assign value hscopes hname).bind fun _ _ houter => .ok (.mk frame houter)

/-- In a scope that both runs have entered every name may be declared. -/
theorem inside_declares : P.inside.Declares allowed where
  declare declarator value hscopes _ := by
    obtain ⟨frame, hscopes⟩ := hscopes
    simp only [Run.declareIn]
    cases frame.declare declarator _ value with
    | error => exact .error rfl
    | ok next => exact .ok (.mk next hscopes)

theorem Machines.enter (h : P.Machines machine other) :
    P.inside.Machines machine.enter other.enter :=
  ⟨h.steps, .mk _ h.scopes, congrArg Machine.enter h.same⟩

theorem Machines.leave (h : P.inside.Machines machine other) :
    P.Machines machine.leave other.leave := by
  refine ⟨h.steps, ?_, congrArg Machine.leave h.same⟩
  have hscopes := h.scopes
  unfold Machine.leave
  generalize machine.scopes = scopes, other.scopes = others at hscopes ⊢
  obtain ⟨frame, hscopes⟩ := hscopes
  exact hscopes

end Pairing

/-! ## Acts abreast -/

/-- Two endings of one act: the first is cut off by its budget, in a state that is paired with some
other, or both have one outcome, in paired states. -/
inductive Together {α : Type} (context : Context) (P : Pairing) : Ending α → Ending α → Prop
  | cut {first second : Ending α}
      (hstop : first.1 = .error (.failed (.program (.stepBudget context.maxSteps))))
      (hover : context.budget < first.2.steps)
      (hpassed : ∃ other, P.Machines first.2 other) : Together context P first second
  | same {first second : Ending α} (houtcome : first.1 = second.1)
      (hstates : P.Machines first.2 second.2) : Together context P first second

/-- Two acts that lead from paired states to one outcome in paired states, as far as the budget
lets the first one come. -/
def Abreast {α : Type} (context : Context) (P : Pairing) (first second : Run α) : Prop :=
  ∀ machine other, P.Machines machine other →
    Together context P (first.run machine) (second.run other)

section Closure

variable {α β : Type} {context : Context} {P Q : Pairing}

theorem Together.bind {first second : Run α} {rest rest' : α → Run β} {machine other : Machine}
    (hfirst : Together context P (first.run machine) (second.run other))
    (hrest : ∀ a, Abreast context P (rest a) (rest' a)) :
    Together context P ((first >>= rest).run machine) ((second >>= rest').run other) := by
  rw [Stateful.run_bind, Stateful.run_bind]
  generalize first.run machine = ending, second.run other = ending' at hfirst ⊢
  cases hfirst with
  | cut hstop hover hpassed =>
    obtain ⟨outcome, next⟩ := ending
    obtain rfl : outcome = _ := hstop
    exact .cut rfl hover hpassed
  | same houtcome hstates =>
    obtain ⟨outcome, next⟩ := ending
    obtain ⟨outcome', next'⟩ := ending'
    obtain rfl : outcome = outcome' := houtcome
    cases outcome with
    | error stop => exact .same rfl hstates
    | ok a => exact hrest a next next' hstates

/-- Both endings are changed alike, without a change of the steps of the first. -/
theorem Together.map {first second : Ending α} (h : Together context P first second)
    (step step' : Machine → Machine) (hsteps : ∀ machine, (step machine).steps = machine.steps)
    (hstates : ∀ machine other, P.Machines machine other →
      Q.Machines (step machine) (step' other)) :
    Together context Q (first.1, step first.2) (second.1, step' second.2) := by
  cases h with
  | cut hstop hover hpassed =>
    obtain ⟨other, hpaired⟩ := hpassed
    exact .cut hstop (hover.trans_eq (hsteps _).symm) ⟨step' other, hstates _ _ hpaired⟩
  | same houtcome hpaired => exact .same houtcome (hstates _ _ hpaired)

namespace Abreast

theorem blind {act : Run α} (h : Blind act) : Abreast context P act act := by
  intro machine other hm
  have hother := h.run_eq other
  rw [← hm.same, h other]
  refine .same rfl ⟨?_, ?_, rfl⟩
  · rw [hother]
    exact hm.steps
  · rw [hother]
    exact hm.scopes

theorem pure (a : α) : Abreast context P (pure a : Run α) (pure a) :=
  blind (.pure a)

theorem bind {first second : Run α} {rest rest' : α → Run β}
    (hfirst : Abreast context P first second) (hrest : ∀ a, Abreast context P (rest a) (rest' a)) :
    Abreast context P (first >>= rest) (second >>= rest') :=
  fun machine other hm => (hfirst machine other hm).bind hrest

theorem tick (hpace : P.Paced) : Abreast context P (Run.tick context) (Run.tick context) := by
  intro machine other hm
  have hnext : P.Machines { machine with steps := machine.steps + 1 }
      { other with steps := other.steps + 1 } :=
    ⟨hpace.next hm.steps, hm.scopes,
      congrArg (fun m : Machine => { m with steps := m.steps + 1 }) hm.same⟩
  rw [Run.run_tick, Run.run_tick]
  by_cases hover : context.budget < machine.steps + 1
  · rw [if_pos hover]
    exact .cut rfl hover ⟨_, hnext⟩
  · have hbehind := hpace.behind hm.steps
    rw [if_neg hover, if_neg (by omega)]
    exact .same rfl hnext

theorem inNewScope {first second : Run α} (h : Abreast context P.inside first second) :
    Abreast context P (Run.inNewScope first) (Run.inNewScope second) := by
  intro machine other hm
  rw [Run.run_inNewScope, Run.run_inNewScope]
  exact (h _ _ hm.enter).map _ _ Machine.leave_steps fun _ _ => Pairing.Machines.leave

theorem repeatWhile {test test' : Run Bool} {round round' : Run Unit}
    (htest : Abreast context P test test') (hround : Abreast context P round round') (count : Nat) :
    Abreast context P (Run.repeatWhile test round count) (Run.repeatWhile test' round' count) := by
  induction count with
  | zero => exact .pure ()
  | succ count ih =>
    refine .bind htest fun holds => ?_
    split
    · exact .bind hround fun _ => ih
    · exact .pure ()

theorem rescope {change change' : List Frame → Except Failure (List Frame)}
    (h : ∀ scopes others, P.scopes scopes others →
      Agree Eq P.scopes (change scopes) (change' others)) :
    Abreast context P (Run.rescope change) (Run.rescope change') := by
  intro machine other hm
  have hagree := h _ _ hm.scopes
  rw [Run.run_rescope, Run.run_rescope]
  generalize change machine.scopes = result, change' other.scopes = result' at hagree ⊢
  cases hagree with
  | @ok next _ hscopes =>
    exact .same rfl ⟨hm.steps, hscopes,
      congrArg (fun m : Machine => { m with scopes := next }) hm.same⟩
  | error hfault =>
    subst hfault
    exact .same rfl hm

end Abreast

end Closure

/-! ## Names and parts of a run -/

section Names

variable {context : Context} {P : Pairing} {allowed : String → Prop} {name : String}

theorem Run.readName_abreast (h : P.Reads allowed) (hname : allowed name) :
    Abreast context P (readName name) (readName name) := by
  intro machine other hm
  have hfound := h.lookup hm.scopes hname
  unfold readName
  rw [Stateful.run_bind_ok (Stateful.run_get machine),
    Stateful.run_bind_ok (Stateful.run_get other), hfound]
  split
  · exact .same rfl hm
  · exact .same rfl hm

theorem Run.writeName_abreast (h : P.Reads allowed) (hname : allowed name) (value : Value) :
    Abreast context P (writeName name value) (writeName name value) :=
  .rescope fun _ _ hscopes => h.assign value hscopes hname

theorem Run.declare_abreast (h : P.Declares allowed) (hname : allowed name)
    (declarator : Declarator) (value : Value) :
    Abreast context P (declare declarator name value) (declare declarator name value) := by
  intro machine other hm
  rw [run_declare, run_declare]
  exact Abreast.rescope (fun _ _ hscopes => h.declare declarator value hscopes hname)
    machine other hm

end Names

/-! ## Expressions -/

section Expressions

variable {context : Context} {P : Pairing} {allowed : String → Prop}

section Parts

variable {room : Nat} (hreads : P.Reads allowed)
  (heval : ∀ expr : Expr, (∀ name ∈ expr.names, allowed name) →
    Abreast context P (evaluate context expr room) (evaluate context expr room))

include heval

theorem evaluateAll_abreast (exprs : List Expr) (h : ∀ name ∈ Expr.listNames exprs, allowed name) :
    Abreast context P (evaluateAll context exprs room) (evaluateAll context exprs room) := by
  induction exprs with
  | nil =>
    simp only [evaluateAll]
    exact .pure []
  | cons first rest ih =>
    obtain ⟨hfirst, hrest⟩ := List.forall_mem_append.mp h
    simp only [evaluateAll]
    exact .bind (heval first hfirst) fun value => .bind (ih hrest) fun values => .pure _

theorem evaluateEntry_abreast (entry : Entry) (h : ∀ name ∈ entry.names, allowed name)
    (fields : Entries Value) :
    Abreast context P (evaluateEntry context entry fields room)
      (evaluateEntry context entry fields room) := by
  cases entry with
  | pair key expr =>
    simp only [evaluateEntry]
    exact .bind (heval expr h) fun value => .pure _
  | spread expr =>
    simp only [evaluateEntry]
    exact .bind (heval expr h) fun value => .blind (Run.spreadInto_blind fields value)

theorem evaluateEntries_abreast (entries : List Entry)
    (h : ∀ name ∈ Entry.listNames entries, allowed name) (fields : Entries Value) :
    Abreast context P (evaluateEntries context entries fields room)
      (evaluateEntries context entries fields room) := by
  induction entries generalizing fields with
  | nil =>
    simp only [evaluateEntries]
    exact .pure fields
  | cons entry rest ih =>
    obtain ⟨hentry, hrest⟩ := List.forall_mem_append.mp h
    simp only [evaluateEntries]
    exact .bind (evaluateEntry_abreast heval entry hentry fields) (ih hrest)

include hreads

theorem readPlace_abreast (place : Place) (h : ∀ name ∈ place.names, allowed name) :
    Abreast context P (readPlace context place room) (readPlace context place room) := by
  cases place with
  | name name =>
    simp only [readPlace]
    exact Run.readName_abreast hreads (h name (List.mem_singleton_self name))
  | member object name optional =>
    simp only [readPlace]
    refine .bind (heval object h) fun value => ?_
    split
    · exact .pure _
    · exact .blind (Run.readMember_blind value name)
  | index object index optional =>
    obtain ⟨hobject, hindex⟩ := List.forall_mem_append.mp h
    simp only [readPlace]
    refine .bind (heval object hobject) fun value => ?_
    have hread := Abreast.bind (heval index hindex) fun key =>
      .blind (Run.readIndex_blind value key)
    split
    · split
      · exact .pure _
      · exact .bind (.blind (Run.fail_blind _)) fun _ => hread
    · exact hread

theorem writePlace_abreast (place : Place) (h : ∀ name ∈ place.names, allowed name)
    (value : Value) :
    Abreast context P (writePlace context place value room)
      (writePlace context place value room) := by
  cases place with
  | name name =>
    simp only [writePlace]
    exact Run.writeName_abreast hreads (h name (List.mem_singleton_self name)) value
  | member object name optional =>
    simp only [writePlace]
    exact .bind (heval object h) fun target => .blind (Run.writePart_blind target _ value)
  | index object index optional =>
    obtain ⟨hobject, hindex⟩ := List.forall_mem_append.mp h
    simp only [writePlace]
    exact .bind (heval object hobject) fun target => .bind (heval index hindex) fun key =>
      .blind (Run.writePart_blind target key value)

end Parts

/-- An expression goes abreast with itself where its names mean the same. -/
theorem evaluate_abreast (hpace : P.Paced) (hreads : P.Reads allowed) (expr : Expr) (room : Nat)
    (h : ∀ name ∈ expr.names, allowed name) :
    Abreast context P (evaluate context expr room) (evaluate context expr room) := by
  induction room generalizing expr with
  | zero =>
    simp only [evaluate]
    exact .blind (Run.fail_blind _)
  | succ room heval =>
    have hof {α : Type} (result : Except Failure α) :
        Abreast context P (Run.ofExcept result) (Run.ofExcept result) :=
      .blind (Run.ofExcept_blind result)
    have hbinary (op : BinaryOp) (a b : Value) : Abreast context P
        (do Run.ofExcept (applyBinary (← get).heap op a b))
        (do Run.ofExcept (applyBinary (← get).heap op a b)) :=
      .blind (.look (fun _ => Run.ofExcept_blind _) fun _ _ _ => rfl)
    cases expr with
    | literal value =>
      simp only [evaluate]
      exact .pure value.value
    | read place =>
      simp only [evaluate]
      exact readPlace_abreast hreads heval place h
    | call callee args =>
      obtain ⟨hcallee, hargs⟩ := List.forall_mem_append.mp h
      simp only [evaluate]
      refine .bind (.tick hpace) fun _ => .bind (heval callee hcallee) fun fn => ?_
      split
      · exact .bind (evaluateAll_abreast heval args hargs) fun values =>
          .blind (Run.ofNative_blind _ (callNative_blind context.world _ values))
      · exact .blind (Run.fail_blind _)
    | unary op operand =>
      simp only [evaluate]
      exact .bind (heval operand h) fun value => hof _
    | binary left op right =>
      obtain ⟨hleft, hright⟩ := List.forall_mem_append.mp h
      simp only [evaluate]
      exact .bind (heval left hleft) fun a => .bind (heval right hright) fun b => hbinary op a b
    | logical left op right =>
      obtain ⟨hleft, hright⟩ := List.forall_mem_append.mp h
      simp only [evaluate]
      refine .bind (heval left hleft) fun a => ?_
      cases op with
      | and | or =>
        refine .bind (hof a.truthy) fun holds => ?_
        split
        all_goals first | exact heval right hright | exact .pure a
      | orElse =>
        dsimp only
        split
        · exact heval right hright
        · exact .pure a
    | conditional test yes no =>
      obtain ⟨htest, hbranches⟩ := List.forall_mem_append.mp h
      obtain ⟨hyes, hno⟩ := List.forall_mem_append.mp hbranches
      simp only [evaluate]
      refine .bind (heval test htest) fun value => .bind (hof value.truthy) fun holds => ?_
      split
      · exact heval yes hyes
      · exact heval no hno
    | object entries =>
      simp only [evaluate]
      exact .bind (evaluateEntries_abreast heval entries h []) fun fields =>
        .blind (Run.newRecord_blind fields)
    | array items =>
      simp only [evaluate]
      exact .bind (evaluateAll_abreast heval items h) fun values =>
        .blind (Run.newList_blind values)
    | assign target op value =>
      obtain ⟨htarget, hvalue⟩ := List.forall_mem_append.mp h
      simp only [evaluate]
      have hwrite (assigned : Value) : Abreast context P
          (do writePlace context target assigned room; return assigned)
          (do writePlace context target assigned room; return assigned) :=
        .bind (writePlace_abreast hreads heval target htarget assigned) fun _ => .pure assigned
      cases op with
      | none => exact .bind (heval value hvalue) hwrite
      | some op =>
        refine .bind (readPlace_abreast hreads heval target htarget) fun old =>
          .bind (heval value hvalue) fun extra => ?_
        have hcompute := Abreast.bind (hbinary op old extra) hwrite
        simpa only [bind_assoc] using hcompute
    | update target op before =>
      simp only [evaluate]
      exact .bind (readPlace_abreast hreads heval target h) fun value => .bind (hof _) fun old =>
        .bind (writePlace_abreast hreads heval target h _) fun _ => .pure _

theorem valueOf_abreast (hpace : P.Paced) (hreads : P.Reads allowed) (expr : Expr)
    (h : ∀ name ∈ expr.names, allowed name) :
    Abreast context P (valueOf context expr) (valueOf context expr) :=
  evaluate_abreast hpace hreads expr evaluationRoom h

theorem valueOf?_abreast (hpace : P.Paced) (hreads : P.Reads allowed) (expr : Option Expr)
    (h : ∀ name ∈ Expr.optionNames expr, allowed name) :
    Abreast context P (valueOf? context expr) (valueOf? context expr) := by
  cases expr with
  | none => exact .pure Value.null
  | some expr => exact valueOf_abreast hpace hreads expr h

theorem holds_abreast (hpace : P.Paced) (hreads : P.Reads allowed) (test : Option Expr)
    (h : ∀ name ∈ Expr.optionNames test, allowed name) :
    Abreast context P (holds context test) (holds context test) := by
  cases test with
  | none => exact .pure true
  | some expr =>
    exact .bind (valueOf_abreast hpace hreads expr h) fun value =>
      .blind (Run.ofExcept_blind value.truthy)

end Expressions

/-! ## Statements -/

section Statements

variable {context : Context} {P : Pairing} {allowed : String → Prop}

/-- A pairing under which statements of certain names go abreast with themselves. -/
structure Pairing.Serves (P : Pairing) (allowed : String → Prop) : Prop extends
  P.Paced, P.Reads allowed, P.Declares allowed

theorem Pairing.Serves.inside (h : P.Serves allowed) : P.inside.Serves allowed :=
  { h.toPaced.inside, h.toReads.inside, Pairing.inside_declares with }

/-- A declaration goes abreast with itself where its names mean the same and its own name may be
declared. -/
theorem declare_abreast {declarable : String → Prop} (hpace : P.Paced) (hreads : P.Reads allowed)
    (hdeclares : P.Declares declarable) (declarator : Declarator) {name : String}
    (hname : declarable name) {value : Option Expr}
    (hvalue : ∀ name ∈ Expr.optionNames value, allowed name) :
    Abreast context P (execute context (.declare declarator name value))
      (execute context (.declare declarator name value)) := by
  simp only [execute]
  exact .bind (.tick hpace) fun _ => .bind (valueOf?_abreast hpace hreads value hvalue)
    fun value => Run.declare_abreast hdeclares hname declarator value

theorem advance_abreast (hpace : P.Paced) (hreads : P.Reads allowed) (next : Option Expr)
    (h : ∀ name ∈ Expr.optionNames next, allowed name) :
    Abreast context P (advance context next) (advance context next) :=
  .bind (valueOf?_abreast hpace hreads next h) fun _ => .tick hpace

/-- A loop with a start goes abreast with itself if its start and its body do in a scope that both
runs have entered. -/
theorem iterate_abreast_of_parts {start : Option Stmt} {test next : Option Expr} {body : Stmt}
    (hpace : P.Paced) (hreads : P.Reads allowed)
    (hstart : Abreast context P.inside (executeAll context start.toList)
      (executeAll context start.toList))
    (htest : ∀ name ∈ Expr.optionNames test, allowed name)
    (hnext : ∀ name ∈ Expr.optionNames next, allowed name)
    (hbody : Abreast context P.inside (execute context body) (execute context body)) :
    Abreast context P (execute context (.iterate start test next body))
      (execute context (.iterate start test next body)) := by
  rw [execute_iterate]
  exact .bind (.tick hpace) fun _ => .inNewScope (.bind hstart fun _ =>
    .repeatWhile (holds_abreast hpace.inside hreads.inside test htest)
      (.bind hbody fun _ => advance_abreast hpace.inside hreads.inside next hnext) _)

mutual

/-- A statement goes abreast with itself where its names mean the same and may be declared. -/
theorem execute_abreast (stmt : Stmt) {P : Pairing} (h : P.Serves allowed)
    (hnames : ∀ name ∈ stmt.names, allowed name) :
    Abreast context P (execute context stmt) (execute context stmt) := by
  have htick : Abreast context P (Run.tick context) (Run.tick context) := .tick h.toPaced
  cases stmt with
  | declare declarator name value =>
    obtain ⟨hname, hvalue⟩ := List.forall_mem_cons.mp hnames
    exact declare_abreast h.toPaced h.toReads h.toDeclares declarator hname hvalue
  | expr value =>
    simp only [execute]
    exact .bind htick fun _ => .bind (valueOf_abreast h.toPaced h.toReads value hnames) fun _ =>
      .pure ()
  | block body =>
    simp only [execute]
    exact .bind htick fun _ => .inNewScope (executeAll_abreast body h.inside hnames)
  | cond test yes no =>
    obtain ⟨htest, hbranches⟩ := List.forall_mem_append.mp hnames
    obtain ⟨hyes, hno⟩ := List.forall_mem_append.mp hbranches
    rw [execute_cond]
    refine .bind htick fun _ => .bind (holds_abreast h.toPaced h.toReads (some test) htest)
      fun holds => ?_
    cases holds with
    | true => exact execute_abreast yes h hyes
    | false => exact executeOption_abreast no h hno
  | loop test body =>
    obtain ⟨htest, hbody⟩ := List.forall_mem_append.mp hnames
    rw [execute_loop]
    exact .bind htick fun _ => .repeatWhile (holds_abreast h.toPaced h.toReads (some test) htest)
      (.bind (execute_abreast body h hbody) fun _ =>
        advance_abreast h.toPaced h.toReads none nofun) _
  | iterate start test next body =>
    obtain ⟨hstart, hnames⟩ := List.forall_mem_append.mp hnames
    obtain ⟨htest, hnames⟩ := List.forall_mem_append.mp hnames
    obtain ⟨hnext, hbody⟩ := List.forall_mem_append.mp hnames
    exact iterate_abreast_of_parts h.toPaced h.toReads (executeOption_abreast start h.inside hstart)
      htest hnext (execute_abreast body h.inside hbody)
  | ret value =>
    simp only [execute]
    exact .bind htick fun _ => .bind (valueOf?_abreast h.toPaced h.toReads value hnames)
      fun value => .blind (.throw _)
  | empty =>
    simp only [execute]
    exact htick

theorem executeOption_abreast (stmt : Option Stmt) {P : Pairing} (h : P.Serves allowed)
    (hnames : ∀ name ∈ Stmt.optionNames stmt, allowed name) :
    Abreast context P (executeAll context stmt.toList) (executeAll context stmt.toList) := by
  cases stmt with
  | none => exact .pure ()
  | some stmt =>
    simp only [Option.toList, executeAll]
    exact .bind (execute_abreast stmt h hnames) fun _ => .pure ()

theorem executeAll_abreast (body : List Stmt) {P : Pairing} (h : P.Serves allowed)
    (hnames : ∀ name ∈ Stmt.listNames body, allowed name) :
    Abreast context P (executeAll context body) (executeAll context body) := by
  cases body with
  | nil => exact .pure ()
  | cons first rest =>
    obtain ⟨hfirst, hrest⟩ := List.forall_mem_append.mp hnames
    simp only [executeAll]
    exact .bind (execute_abreast first h hfirst) fun _ => executeAll_abreast rest h hrest

end

theorem executeAll_append (body rest : List Stmt) :
    executeAll context (body ++ rest) = (do executeAll context body; executeAll context rest) := by
  induction body with
  | nil => simp [executeAll]
  | cons first body ih => simp [executeAll, ih]

/-! A block and a loop with a start declare names in a scope of their own only. -/

section Enclosed

variable (hpace : P.Paced) (hreads : P.Reads allowed)

include hpace hreads

theorem Pairing.inside_serves : P.inside.Serves allowed :=
  { hpace.inside, hreads.inside, Pairing.inside_declares with }

theorem block_abreast (body : List Stmt) (hnames : ∀ name ∈ Stmt.listNames body, allowed name) :
    Abreast context P (execute context (.block body)) (execute context (.block body)) := by
  rw [execute]
  exact .bind (.tick hpace) fun _ =>
    .inNewScope (executeAll_abreast body (Pairing.inside_serves hpace hreads) hnames)

theorem iterate_abreast (start : Option Stmt) (test next : Option Expr) (body : Stmt)
    (hnames : ∀ name ∈ (Stmt.iterate start test next body).names, allowed name) :
    Abreast context P (execute context (.iterate start test next body))
      (execute context (.iterate start test next body)) := by
  obtain ⟨hstart, hnames⟩ := List.forall_mem_append.mp hnames
  obtain ⟨htest, hnames⟩ := List.forall_mem_append.mp hnames
  obtain ⟨hnext, hbody⟩ := List.forall_mem_append.mp hnames
  have hinside := Pairing.inside_serves hpace hreads
  exact iterate_abreast_of_parts hpace hreads (executeOption_abreast start hinside hstart) htest
    hnext (execute_abreast body hinside hbody)

end Enclosed

end Statements

/-! ## Runs beside themselves -/

/-- The pairing of a run with itself, in scopes of a kind. -/
def Pairing.itself (kind : List Frame → Prop) : Pairing where
  steps m n := m = n
  scopes scopes others := scopes = others ∧ kind scopes

section Itself

variable {context : Context} {kind : List Frame → Prop}

theorem Pairing.itself_paced : (itself kind).Paced where
  behind h := h.ge
  next h := congrArg (· + 1) h

theorem Pairing.itself_reads
    (hassign : ∀ {name value scopes next}, kind scopes →
      Run.assignIn name value scopes = .ok next → kind next) :
    (itself kind).Reads fun _ => True where
  lookup hscopes _ := by rw [hscopes.1]
  assign {scopes others name} value hscopes _ := by
    obtain ⟨rfl, hkind⟩ := hscopes
    cases hresult : Run.assignIn name value scopes with
    | error => exact .error rfl
    | ok next => exact .ok ⟨rfl, hassign hkind hresult⟩

theorem Pairing.itself_declares
    (hdeclare : ∀ {declarator name value scopes next}, kind scopes →
      Run.declareIn declarator name value scopes = .ok next → kind next) :
    (itself kind).Declares fun _ => True where
  declare {scopes others name} declarator value hscopes _ := by
    obtain ⟨rfl, hkind⟩ := hscopes
    cases hresult : Run.declareIn declarator name value scopes with
    | error => exact .error rfl
    | ok next => exact .ok ⟨rfl, hdeclare hkind hresult⟩

/-- An act that goes abreast with itself in scopes of a kind leaves such scopes, however it ends. -/
theorem Abreast.kind_of_itself {α : Type} {act : Run α}
    (h : Abreast context (.itself kind) act act) {machine : Machine} (hkind : kind machine.scopes) :
    kind (act.run machine).2.scopes := by
  have htogether := h machine machine ⟨rfl, ⟨rfl, hkind⟩, rfl⟩
  cases htogether with
  | cut _ _ hpassed =>
    obtain ⟨other, hpaired⟩ := hpassed
    exact hpaired.scopes.2
  | same _ hstates => exact hstates.scopes.2

end Itself

end Canvasflow.Program
