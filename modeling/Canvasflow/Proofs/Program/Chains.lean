import Canvasflow.Program.Parser
import Canvasflow.Proofs.Program.Budget

/-!
# Chains of accesses and calls

A chain is an expression with links behind it: members, indices and calls. Before anything else it
takes a step for each of its calls; then the expression is evaluated, and the links follow on its
value one after another (`evaluate_linked`). An optional link gives null for null, but the links
behind it are not passed over: they follow on this null. So null comes out at the end only if all of
them are optional too, and otherwise the first other one fails, as `optional_chains` states; the
indices and arguments behind the null are not evaluated either way.
-/

namespace Canvasflow.Program

/-- What may stand behind an expression; calls are never optional. -/
inductive Link where
  | member (name : String) (optional : Bool)
  | index (key : Expr) (optional : Bool)
  | call (args : List Expr)

namespace Link

/-- The expression with the link behind it. -/
def extend (expr : Expr) : Link → Expr
  | member name optional => .read (.member expr name optional)
  | index key optional => .read (.index expr key optional)
  | call args => .call expr args

/-- Whether the link gives null for null. -/
def optional : Link → Bool
  | member _ optional | index _ optional => optional
  | call _ => false

/-- The steps of the budget that a link takes. -/
def steps : Link → Nat
  | member .. | index .. => 0
  | call _ => 1

/-- What a link does with the value of the expression in front of it, whose name it may report. -/
def follow (context : Context) (described : String) (value : Value) (room : Nat) : Link → Run Value
  | member name optional =>
    if Run.isNull value && optional then return .null else Run.readMember value name
  | index key optional => do
    if Run.isNull value then
      if optional then return .null else Run.fail (.program .nullIndex)
    Run.readIndex value (← evaluate context key room)
  | call args => do
    match value with
    | .native fn => Run.ofNative fn (callNative context.world fn (← evaluateAll context args room))
    | _ => Run.fail (.program (.notAFunction described))

/-- The failure of a link on null if it is not optional. -/
def fault (described : String) : Link → ProgramFault
  | member name _ => .nullMember name
  | index .. => .nullIndex
  | call _ => .notAFunction described

/-- The stamps that a failing link uses up. -/
def stamps : Link → Nat
  | member .. => 1
  | index .. | call _ => 0

end Link

/-- An expression with links behind it. -/
def linked (expr : Expr) (links : List Link) : Expr :=
  links.foldl Link.extend expr

/-- The steps that the links of a chain take. -/
def chainSteps : List Link → Nat
  | [] => 0
  | link :: rest => chainSteps rest + link.steps

/-! ## Reading -/

namespace Reader

variable {α β : Type}

/-- What a reader gives, whatever it is read from. -/
def Gives (reader : Reader α) (kind : α → Prop) : Prop :=
  ∀ tokens a rest, reader.run tokens = .ok (a, rest) → kind a

theorem Gives.pure {kind : α → Prop} {a : α} (h : kind a) : Gives (Pure.pure a) kind := by
  intro tokens b rest hrun
  cases hrun
  exact h

theorem Gives.bind {first : Reader α} {rest : α → Reader β} {kind : β → Prop}
    (h : ∀ a, Gives (rest a) kind) : Gives (first >>= rest) kind := by
  intro tokens b left hrun
  rw [StateT.run_bind] at hrun
  obtain ⟨⟨a, others⟩, -, hrest⟩ := bind_eq_ok_iff.mp hrun
  exact h a others b left hrest

/-- The accesses and calls behind an expression are read as a chain of links. -/
theorem suffixesFrom_gives (item : Reader Expr) (fuel : Nat) (expr : Expr) :
    Gives (suffixesFrom item fuel expr) fun read => ∃ links, read = linked expr links := by
  induction fuel generalizing expr with
  | zero => exact .pure ⟨[], rfl⟩
  | succ fuel ih =>
    have hlink (link : Link) : Gives (suffixesFrom item fuel (link.extend expr))
        fun read => ∃ links, read = linked expr links := by
      intro tokens read rest hrun
      obtain ⟨links, hlinks⟩ := ih (link.extend expr) tokens read rest hrun
      exact ⟨link :: links, hlinks⟩
    have hmember (optional : Bool) := fun name => hlink (.member name optional)
    have hindex (optional : Bool) := fun key => hlink (.index key optional)
    rw [suffixesFrom]
    refine .bind fun dot => ?_
    split
    · exact .bind (hmember false)
    · refine .bind fun chained => ?_
      split
      · refine .bind fun bracket => ?_
        split
        · exact .bind (hindex true)
        · exact .bind (hmember true)
      · refine .bind fun bracket => ?_
        split
        · exact .bind (hindex false)
        · refine .bind fun parenthesis => ?_
          split
          · exact .bind fun args => hlink (.call args)
          · exact .pure ⟨[], rfl⟩

end Reader

/-! ## Evaluation -/

/-- What the links behind an expression do with its value; each has one level more room than the one
in front of it. -/
def followAll (context : Context) : Expr → List Link → Nat → Value → Run Value
  | _, [], _, value => return value
  | expr, link :: rest, room, value => do
    followAll context (link.extend expr) rest (room + 1)
      (← link.follow context expr.described value room)

/-- Take some steps of the budget. -/
def ticks (context : Context) : Nat → Run Unit
  | 0 => pure ()
  | n + 1 => do
    ticks context n
    Run.tick context

/-- A link takes its step before the expression in front of it is evaluated. -/
theorem evaluate_extend (context : Context) (expr : Expr) (link : Link) (room : Nat) :
    evaluate context (link.extend expr) (room + 1) = (do
      ticks context link.steps
      link.follow context expr.described (← evaluate context expr room) room) := by
  cases link with
  | member name optional | index key optional =>
    rw [Link.extend, evaluate, readPlace, Link.steps, ticks, pure_bind]
    rfl
  | call args =>
    rw [Link.extend, evaluate, Link.steps, ticks, ticks, pure_bind]
    rfl

theorem ticks_add (context : Context) (m n : Nat) :
    ticks context (m + n) = (do ticks context m; ticks context n) := by
  induction n with
  | zero => rw [ticks, Nat.add_zero, bind_pure_unit]
  | succ n ih => rw [← Nat.add_assoc, ticks, ih, ticks, bind_assoc]

/-- A chain takes the steps of all its links, and then goes through it from the front. -/
theorem evaluate_linked (context : Context) (expr : Expr) (links : List Link) (room : Nat) :
    evaluate context (linked expr links) (room + links.length) = (do
      ticks context (chainSteps links)
      followAll context expr links room (← evaluate context expr room)) := by
  induction links generalizing expr room with
  | nil =>
    rw [chainSteps, ticks, pure_bind]
    exact (bind_pure _).symm
  | cons link rest ih =>
    have hrest := ih (link.extend expr) (room + 1)
    rw [Nat.add_right_comm] at hrest
    rw [linked, List.foldl_cons, ← linked, List.length_cons, ← Nat.add_assoc, hrest,
      evaluate_extend, chainSteps, ticks_add]
    simp only [bind_assoc, followAll]

theorem run_ticks {context : Context} {n : Nat} {machine : Machine}
    (h : n = 0 ∨ machine.steps + n ≤ context.budget) :
    (ticks context n).run machine = (.ok (), { machine with steps := machine.steps + n }) := by
  induction n with
  | zero => rfl
  | succ n ih =>
    rw [ticks, Stateful.run_bind_ok (ih (by omega)), Run.run_tick, if_neg (by dsimp only; omega)]
    rfl

/-! ## Links on null -/

section Null

variable {context : Context} {described : String} {room : Nat} {link : Link}

theorem Link.follow_optional (h : link.optional = true) :
    link.follow context described .null room = pure .null := by
  cases link with
  | member name optional | index key optional =>
    cases h
    rfl
  | call => cases h

theorem Link.run_follow_fault (h : link.optional = false) (machine : Machine) :
    (link.follow context described .null room).run machine =
      (.error (.failed (.program (link.fault described))),
        { machine with stamps := machine.stamps + link.stamps }) := by
  cases link with
  | member name optional | index key optional =>
    cases h
    rfl
  | call => rfl

/-- Optional links lead from null to null. -/
theorem followAll_optional {links : List Link} (h : ∀ link ∈ links, link.optional = true)
    (expr : Expr) (room : Nat) : followAll context expr links room .null = pure .null := by
  induction links generalizing expr room with
  | nil => rfl
  | cons link rest ih =>
    obtain ⟨hlink, hrest⟩ := List.forall_mem_cons.mp h
    rw [followAll, Link.follow_optional hlink, pure_bind, ih hrest]

/-- The first link that is not optional fails on null, and nothing behind it is looked at. -/
theorem run_followAll_fault {earlier : List Link} (h : ∀ link ∈ earlier, link.optional = true)
    (hlink : link.optional = false) (later : List Link) (expr : Expr) (room : Nat)
    (machine : Machine) :
    (followAll context expr (earlier ++ link :: later) room .null).run machine =
      (.error (.failed (.program (link.fault (linked expr earlier).described))),
        { machine with stamps := machine.stamps + link.stamps }) := by
  induction earlier generalizing expr room with
  | nil => exact Stateful.run_bind_error (Link.run_follow_fault hlink machine)
  | cons first earlier ih =>
    obtain ⟨hfirst, hearlier⟩ := List.forall_mem_cons.mp h
    rw [List.cons_append, followAll, Link.follow_optional hfirst, pure_bind, ih hearlier]
    rfl

end Null

/-- A chain in which the object of an optional link is null. The steps of all its later calls are
taken first; if the budget allows them, and the object is null then, the chain is null exactly if
all later links are optional too, in the state that the object leaves. Otherwise the first link that
is not optional fails on null. In either case no later index and no argument is evaluated: neither
the outcome nor the state depends on any of them. -/
theorem optional_chains (context : Context) (object : Expr) (first : Link) (rest : List Link)
    (hfirst : first.optional = true) (room : Nat) (machine after : Machine)
    (hsteps : chainSteps rest = 0 ∨ machine.steps + chainSteps rest ≤ context.budget)
    (hnull : (evaluate context object room).run
      { machine with steps := machine.steps + chainSteps rest } = (.ok .null, after)) :
    let outcome :=
      (evaluate context (linked object (first :: rest)) (room + (rest.length + 1))).run machine
    (outcome = (.ok .null, after) ↔ ∀ link ∈ rest, link.optional = true) ∧
    ∀ earlier link later, rest = earlier ++ link :: later →
      (∀ link ∈ earlier, link.optional = true) → link.optional = false →
      outcome = (.error (.failed (.program
          (link.fault (linked object (first :: earlier)).described))),
        { after with stamps := after.stamps + link.stamps }) := by
  intro outcome
  have hsteps' : chainSteps (first :: rest) = chainSteps rest := by
    rw [chainSteps]
    cases first with
    | member | index => rfl
    | call => cases hfirst
  have houtcome : outcome = (followAll context object (first :: rest) room .null).run after := by
    have heval := evaluate_linked context object (first :: rest) room
    rw [List.length_cons, hsteps'] at heval
    rw [show outcome = _ from congrArg (fun act : Run Value => act.run machine) heval,
      Stateful.run_bind_ok (run_ticks hsteps), Stateful.run_bind_ok hnull]
  have hfault (earlier : List Link) (link : Link) (later : List Link)
      (hrest : rest = earlier ++ link :: later) (hearlier : ∀ link ∈ earlier, link.optional = true)
      (hlink : link.optional = false) : outcome = (.error (.failed (.program
          (link.fault (linked object (first :: earlier)).described))),
        { after with stamps := after.stamps + link.stamps }) := by
    rw [houtcome, hrest, ← List.cons_append]
    exact run_followAll_fault (List.forall_mem_cons.mpr ⟨hfirst, hearlier⟩) hlink later object room
      after
  refine ⟨⟨fun hnull => ?_, fun hall => ?_⟩, hfault⟩
  · by_contra hsome
    -- the first later link that is not optional fails
    obtain ⟨link, hlink⟩ : ∃ link, rest.find? (fun link => !link.optional) = some link := by
      rw [← Option.isSome_iff_exists, List.find?_isSome]
      simpa using hsome
    obtain ⟨hlink, earlier, later, hrest, hearlier⟩ := List.find?_eq_some_iff_append.mp hlink
    rw [hfault earlier link later hrest (by simpa using hearlier) (by simpa using hlink)] at hnull
    cases hnull
  · rw [houtcome, followAll_optional (List.forall_mem_cons.mpr ⟨hfirst, hall⟩)]
    rfl

/-- After `(\x7b a: null \x7d).a?.b` the member `c` fails, and the optional member `c` does not. -/
theorem optional_chains_of_member :
    let object : Expr := .read (.member (.object [.pair "a" (.literal .null)]) "a" false)
    let outcome (optional : Bool) := ((evaluate ⟨.none, 10⟩
      (linked object [.member "b" true, .member "c" optional]) 900).run (.start .empty 0 [])).1
    outcome false = .error (.failed (.program (.nullMember "c"))) ∧ outcome true = .ok .null := by
  intro object outcome
  have hnull : (evaluate ⟨.none, 10⟩ object 898).run (.start .empty 0 []) =
      (.ok .null, ⟨⟨#[.record [("a", .null)]]⟩, [⟨[], []⟩], 0, #[], 1, 0⟩) := by rfl
  have hchain (optional : Bool) := optional_chains ⟨.none, 10⟩ object (.member "b" true)
    [.member "c" optional] rfl 898 (.start .empty 0 []) _ (.inl rfl) hnull
  exact ⟨congrArg Prod.fst ((hchain false).2 [] (.member "c" false) [] rfl nofun rfl),
    congrArg Prod.fst ((hchain true).1.mpr (by simp [Link.optional]))⟩

end Canvasflow.Program
