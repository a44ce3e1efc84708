import Canvasflow.Program.Parser
import Canvasflow.Proofs.Outcome

/-!
# The levels of expressions

The readers of expressions are nested in levels: a reader takes an operand from the next level and
goes on as long as an operator of its own level follows. `joins` gives the level of every operator
that goes on with an expression, and `Stops` says that what follows an expression goes on with it at
no level from a given one. An expression that one level reads up to such a place is read by every
level around it.
-/

namespace Canvasflow.Program.Reader

/-! ## Runs on given tokens -/

section Runs

variable {α β : Type} {tokens rest : List Token} {token : Token} {op : String}

/-- A sequence goes on with what its first part gives. -/
theorem run_bind_ok {first : Reader α} {next : α → Reader β} {a : α}
    (h : first.run tokens = .ok (a, rest)) : (first >>= next).run tokens = (next a).run rest := by
  rw [StateT.run_bind, h]
  rfl

/-- The first of some tokens, or the end of the text. -/
def firstOf (tokens : List Token) : Token :=
  tokens.head?.getD ⟨.endOfText, "", .start⟩

theorem run_current : current.run tokens = .ok (firstOf tokens, tokens) := rfl

theorem run_bound : bound.run tokens = .ok (tokens.length + 1, tokens) := rfl

theorem run_atOp : (atOp op).run tokens = .ok (isToken .op op (firstOf tokens), tokens) := rfl

theorem run_accept_taken {kind : TokenKind} {value : String} (h : isToken kind value token = true) :
    (accept kind value).run (token :: rest) = .ok (true, rest) := by
  unfold accept
  rw [run_bind_ok run_current, firstOf, List.head?_cons, Option.getD_some, if_pos h]
  rfl

theorem run_accept_left {kind : TokenKind} {value : String}
    (h : isToken kind value (firstOf tokens) = false) :
    (accept kind value).run tokens = .ok (false, tokens) := by
  unfold accept
  rw [run_bind_ok run_current, if_neg (by simp [h])]
  rfl

section Alternatives

variable {yes no : Reader α}

/-- What is read if the token can be taken. -/
theorem run_accept_then {kind : TokenKind} {value : String} (h : isToken kind value token = true) :
    (accept kind value >>= fun found => if found = true then yes else no).run (token :: rest) =
      yes.run rest := by
  rw [run_bind_ok (run_accept_taken h), if_pos rfl]

/-- What is read if the token cannot be taken. -/
theorem run_accept_else {kind : TokenKind} {value : String}
    (h : isToken kind value (firstOf tokens) = false) :
    (accept kind value >>= fun found => if found = true then yes else no).run tokens =
      no.run tokens := by
  rw [run_bind_ok (run_accept_left h), if_neg Bool.false_ne_true]

theorem run_atOp_else (h : isToken .op op (firstOf tokens) = false) :
    (atOp op >>= fun found => if found = true then yes else no).run tokens = no.run tokens := by
  rw [run_bind_ok run_atOp, h, if_neg Bool.false_ne_true]

end Alternatives

theorem run_expectOp (h : isToken .op op token = true) :
    (expectOp op).run (token :: rest) = .ok ((), rest) := by
  unfold expectOp
  rw [run_bind_ok run_current, firstOf, List.head?_cons, Option.getD_some, if_pos h]
  rfl

theorem run_acceptFrom_taken {table : List (String × α)} {a : α} (hkind : token.kind = .op)
    (h : Entries.find? token.value table = some a) :
    (acceptFrom table).run (token :: rest) = .ok (some a, rest) := by
  unfold acceptFrom
  rw [run_bind_ok run_current, firstOf, List.head?_cons, Option.getD_some, if_pos hkind, h]
  rfl

theorem run_acceptFrom_left {table : List (String × α)}
    (h : (firstOf tokens).kind = .op → Entries.find? (firstOf tokens).value table = none) :
    (acceptFrom table).run tokens = .ok (none, tokens) := by
  unfold acceptFrom
  rw [run_bind_ok run_current]
  by_cases hkind : (firstOf tokens).kind = .op
  · rw [if_pos hkind, h hkind]
    rfl
  · rw [if_neg hkind]
    rfl

end Runs

/-! ## Where an expression stops -/

/-- The operators that go on with an expression, each with the level of the reader that takes it.
The conditional and the assignments are read by one reader. -/
def joins : List (String × Nat) :=
  [("?", 1), ("=", 1), ("+=", 1), ("-=", 1), ("*=", 1), ("/=", 1), ("%=", 1), ("??", 2), ("||", 3),
    ("&&", 4), ("==", 5), ("!=", 5), ("===", 5), ("!==", 5), ("<", 6), (">", 6), ("<=", 6),
    (">=", 6), ("+", 7), ("-", 7), ("*", 8), ("/", 8), ("%", 8), ("**", 9), ("++", 11), ("--", 11),
    (".", 12), ("?.", 12), ("[", 12), ("(", 12)]

/-- No operator of the level or a tighter one follows. -/
def Stops (level : Nat) (rest : List Token) : Prop :=
  (firstOf rest).kind = .op → ∀ k, Entries.find? (firstOf rest).value joins = some k → k < level

theorem Stops.mono {level other : Nat} {rest : List Token} (h : Stops level rest)
    (hle : level ≤ other) : Stops other rest :=
  fun hkind k hk => Nat.lt_of_lt_of_le (h hkind k hk) hle

/-- An operator of a looser level follows. -/
theorem Stops.of_some {level k : Nat} {kind : TokenKind} {value : String} {position : Position}
    {rest : List Token} (h : Entries.find? value joins = some k) (hk : k < level) :
    Stops level (⟨kind, value, position⟩ :: rest) :=
  fun _ _ hother => Option.some.inj (h.symm.trans hother) ▸ hk

/-- What goes on with no expression. -/
theorem Stops.of_none {level : Nat} {kind : TokenKind} {value : String} {position : Position}
    {rest : List Token} (h : Entries.find? value joins = none) :
    Stops level (⟨kind, value, position⟩ :: rest) :=
  fun _ _ hk => nomatch h.symm.trans hk

section Stops

variable {α : Type} {level : Nat} {rest : List Token} (h : Stops level rest)

include h

/-- Operators of the level are not taken where it stops. -/
theorem run_acceptFrom_stops {table : List (String × α)}
    (htable : ∀ row ∈ table, ∃ k, Entries.find? row.1 joins = some k ∧ level ≤ k) :
    (acceptFrom table).run rest = .ok (none, rest) := by
  refine run_acceptFrom_left fun hkind => ?_
  by_contra hfound
  obtain ⟨a, ha⟩ := Option.ne_none_iff_exists'.mp hfound
  obtain ⟨k, hk, hle⟩ := htable _ (Entries.mem_of_find? ha)
  exact absurd (h hkind k hk) (Nat.not_lt.mpr hle)

theorem not_isToken_of_stops {op : String} {k : Nat} (hop : Entries.find? op joins = some k)
    (hle : level ≤ k) : isToken .op op (firstOf rest) = false := by
  by_contra htoken
  simp only [isToken, Bool.not_eq_false, Bool.and_eq_true, beq_iff_eq] at htoken
  exact absurd (h htoken.1 k (htoken.2 ▸ hop)) (Nat.not_lt.mpr hle)

theorem run_acceptOp_stops {op : String} {k : Nat} (hop : Entries.find? op joins = some k)
    (hle : level ≤ k) {yes no : Reader α} :
    (acceptOp op >>= fun found => if found = true then yes else no).run rest = no.run rest :=
  run_accept_else (not_isToken_of_stops h hop hle)

end Stops

/-! ## From one level to the next -/

/-- The readers of the levels of binary operators, tightest first. -/
def multiplicative (power : Reader Expr) : Reader Expr := chain power multiplicativeOps Expr.binary

def additive (power : Reader Expr) : Reader Expr :=
  chain (multiplicative power) additiveOps Expr.binary

def relational (power : Reader Expr) : Reader Expr :=
  chain (additive power) relationalOps Expr.binary

def equality (power : Reader Expr) : Reader Expr :=
  chain (relational power) equalityOps Expr.binary

def conjunction (power : Reader Expr) : Reader Expr :=
  chain (equality power) [("&&", LogicalOp.and)] Expr.logical

def disjunction (power : Reader Expr) : Reader Expr :=
  chain (conjunction power) [("||", LogicalOp.or)] Expr.logical

theorem operators_eq (power : Reader Expr) :
    operators power = chain (disjunction power) [("??", LogicalOp.orElse)] Expr.logical := rfl

/-- An expression with its accesses and calls. -/
def accessed (item : Reader Expr) : Reader Expr := do
  let fuel ← bound
  let first ← primary item
  suffixesFrom item fuel first

/-- The readers of all levels, where expressions inside parentheses, brackets and braces have the
given room: assignments and conditionals, seven levels of binary operators, powers, operators before
and after an operand, accesses and calls, and primary expressions. -/
def levelReader (room : Nat) : Nat → Reader Expr
  | 0 | 1 => expression (room + 3)
  | 2 => operators (power (room + 2))
  | 3 => disjunction (power (room + 2))
  | 4 => conjunction (power (room + 2))
  | 5 => equality (power (room + 2))
  | 6 => relational (power (room + 2))
  | 7 => additive (power (room + 2))
  | 8 => multiplicative (power (room + 2))
  | 9 => power (room + 2)
  | 10 => operand (room + 1)
  | 11 => stepped (expression room)
  | 12 => accessed (expression room)
  | _ => primary (expression room)

/-- Nothing that stands before an operand comes first. -/
def Unprefixed (tokens : List Token) : Prop :=
  (firstOf tokens).kind = .op → Entries.find? (firstOf tokens).value unaryOps = none ∧
    Entries.find? (firstOf tokens).value updateOps = none

theorem Unprefixed.of_none {kind : TokenKind} {value : String} {position : Position}
    {rest : List Token} (h : Entries.find? value unaryOps = none)
    (h' : Entries.find? value updateOps = none) : Unprefixed (⟨kind, value, position⟩ :: rest) :=
  fun _ => ⟨h, h'⟩

section Climbing

variable {item : Reader Expr} {tokens rest : List Token} {expr : Expr} {room : Nat}

theorem run_suffixesFrom_stops {fuel : Nat} (hrest : Stops 12 rest) :
    (suffixesFrom item (fuel + 1) expr).run rest = .ok (expr, rest) := by
  rw [suffixesFrom, run_acceptOp_stops hrest (show _ = some 12 by decide) (Nat.le_refl _),
    run_acceptOp_stops hrest (show _ = some 12 by decide) (Nat.le_refl _),
    run_acceptOp_stops hrest (show _ = some 12 by decide) (Nat.le_refl _),
    run_acceptOp_stops hrest (show _ = some 12 by decide) (Nat.le_refl _)]
  rfl

theorem run_accessed (h : (primary item).run tokens = .ok (expr, rest)) (hrest : Stops 12 rest) :
    (accessed item).run tokens = .ok (expr, rest) := by
  rw [accessed, run_bind_ok run_bound, run_bind_ok h]
  exact run_suffixesFrom_stops hrest

theorem stepped_eq (item : Reader Expr) :
    stepped item = (accessed item >>= fun expr => do
      let token ← current
      match ← acceptFrom updateOps with
      | none => return expr
      | some op => match expr.place? with
        | some target => return .update target op false
        | none => throw (.invalidOperand op.symbol token.position)) := by
  simp only [accessed, bind_assoc]
  rfl

theorem run_stepped (h : (accessed item).run tokens = .ok (expr, rest)) (hrest : Stops 11 rest) :
    (stepped item).run tokens = .ok (expr, rest) := by
  have hleft : (acceptFrom updateOps).run rest = .ok (none, rest) :=
    run_acceptFrom_stops hrest (by decide)
  rw [stepped_eq, run_bind_ok h, run_bind_ok run_current, run_bind_ok hleft]
  rfl

theorem run_operand (htokens : Unprefixed tokens)
    (h : (stepped (expression room)).run tokens = .ok (expr, rest)) :
    (operand (room + 1)).run tokens = .ok (expr, rest) := by
  have hunary : (acceptFrom unaryOps).run tokens = .ok (none, tokens) :=
    run_acceptFrom_left fun hkind => (htokens hkind).1
  have hupdate : (acceptFrom updateOps).run tokens = .ok (none, tokens) :=
    run_acceptFrom_left fun hkind => (htokens hkind).2
  rw [operand, run_bind_ok hunary]
  dsimp only
  rw [run_bind_ok run_current, run_bind_ok hupdate]
  exact h

theorem run_power (h : (operand room).run tokens = .ok (expr, rest)) (hrest : Stops 9 rest) :
    (power (room + 1)).run tokens = .ok (expr, rest) := by
  rw [power, run_bind_ok h, run_acceptOp_stops hrest (show _ = some 9 by decide) (Nat.le_refl _)]
  rfl

section Chains

variable {α : Type} {operand : Reader Expr} {table : List (String × α)}
  {join : Expr → α → Expr → Expr} {level : Nat}
  (htable : ∀ row ∈ table, Entries.find? row.1 joins = some level)

include htable

theorem run_chainFrom_stops {fuel : Nat} (hrest : Stops level rest) :
    (chainFrom operand table join (fuel + 1) expr).run rest = .ok (expr, rest) := by
  have hleft : (acceptFrom table).run rest = .ok (none, rest) :=
    run_acceptFrom_stops hrest fun row hrow => ⟨level, htable row hrow, Nat.le_refl _⟩
  rw [chainFrom, run_bind_ok hleft]
  rfl

theorem run_chain (h : operand.run tokens = .ok (expr, rest)) (hrest : Stops level rest) :
    (chain operand table join).run tokens = .ok (expr, rest) := by
  rw [chain, run_bind_ok h, run_bind_ok run_bound]
  exact run_chainFrom_stops htable hrest

end Chains

theorem run_expression (h : (operators (power room)).run tokens = .ok (expr, rest))
    (hrest : Stops 1 rest) : (expression (room + 1)).run tokens = .ok (expr, rest) := by
  have hleft : (acceptFrom assignOps).run rest = .ok (none, rest) :=
    run_acceptFrom_stops hrest (by decide)
  rw [expression, run_bind_ok h, run_acceptOp_stops hrest (show _ = some 1 by decide) (by decide),
    run_bind_ok rfl, run_bind_ok run_current, run_bind_ok hleft]
  rfl

/-- An expression that the next level reads is read by a level whose operators do not follow it. -/
theorem run_levelReader_succ {level : Nat} (htokens : level = 10 → Unprefixed tokens)
    (h : (levelReader room (level + 1)).run tokens = .ok (expr, rest)) (hrest : Stops level rest) :
    (levelReader room level).run tokens = .ok (expr, rest) := by
  match level with
  | 0 => exact h
  | 1 => exact run_expression h hrest
  | 2 =>
    rw [levelReader, operators_eq]
    exact run_chain (by decide) h hrest
  | 3 => exact run_chain (by decide) h hrest
  | 4 => exact run_chain (by decide) h hrest
  | 5 => exact run_chain (by decide) h hrest
  | 6 => exact run_chain (by decide) h hrest
  | 7 => exact run_chain (by decide) h hrest
  | 8 => exact run_chain (by decide) h hrest
  | 9 => exact run_power h hrest
  | 10 => exact run_operand (htokens rfl) h
  | 11 => exact run_stepped h hrest
  | 12 => exact run_accessed h hrest
  | level + 13 => exact h

/-- An expression that one level reads is read by every level around it, up to where it stops. -/
theorem run_levelReader_of_le {level inner : Nat} (hle : level ≤ inner)
    (htokens : 10 < inner → Unprefixed tokens)
    (h : (levelReader room inner).run tokens = .ok (expr, rest)) (hrest : Stops level rest) :
    (levelReader room level).run tokens = .ok (expr, rest) := by
  induction hle with
  | refl => exact h
  | step hle ih =>
    refine ih (fun h => htokens (Nat.lt_succ_of_lt h)) ?_
    exact run_levelReader_succ (fun h => htokens (by simp [h])) h (hrest.mono hle)

end Climbing

/-! ## Levels that group to the left -/

/-- The levels whose readers go on behind what they have read: the binary operators except powers,
and accesses and calls. -/
def loopLevels : List Nat := [2, 3, 4, 5, 6, 7, 8, 12]

/-- How the reader of such a level goes on behind an expression. -/
def going (room : Nat) : Nat → Nat → Expr → Reader Expr
  | 2 => chainFrom (disjunction (power (room + 2))) [("??", LogicalOp.orElse)] Expr.logical
  | 3 => chainFrom (conjunction (power (room + 2))) [("||", LogicalOp.or)] Expr.logical
  | 4 => chainFrom (equality (power (room + 2))) [("&&", LogicalOp.and)] Expr.logical
  | 5 => chainFrom (relational (power (room + 2))) equalityOps Expr.binary
  | 6 => chainFrom (additive (power (room + 2))) relationalOps Expr.binary
  | 7 => chainFrom (multiplicative (power (room + 2))) additiveOps Expr.binary
  | 8 => chainFrom (power (room + 2)) multiplicativeOps Expr.binary
  | 12 => suffixesFrom (expression room)
  | _ => fun _ => pure

section Loops

variable {tokens rest : List Token} {expr : Expr} {room level fuel : Nat}

/-- A level goes on behind what the next level reads. -/
theorem run_levelReader_going (hlevel : level ∈ loopLevels)
    (h : (levelReader room (level + 1)).run tokens = .ok (expr, rest))
    (hrest : rest.length ≤ tokens.length) :
    ∃ fuel, rest.length < fuel ∧
      (levelReader room level).run tokens = (going room level fuel expr).run rest := by
  have hchain {α : Type} {operand : Reader Expr} {table : List (String × α)}
      {join : Expr → α → Expr → Expr} (h : operand.run tokens = .ok (expr, rest)) :
      (chain operand table join).run tokens =
        (chainFrom operand table join (rest.length + 1) expr).run rest := by
    rw [chain, run_bind_ok h, run_bind_ok run_bound]
  simp only [loopLevels, List.mem_cons, List.not_mem_nil, or_false] at hlevel
  obtain rfl | rfl | rfl | rfl | rfl | rfl | rfl | rfl := hlevel
  case inr.inr.inr.inr.inr.inr.inr =>
    have h : (primary (expression room)).run tokens = .ok (expr, rest) := h
    refine ⟨tokens.length + 1, Nat.lt_succ_of_le hrest, ?_⟩
    change (accessed (expression room)).run tokens = _
    rw [accessed, run_bind_ok run_bound, run_bind_ok h]
    rfl
  all_goals exact ⟨rest.length + 1, Nat.lt_succ_self _, hchain h⟩

/-- A level stops where no operator of it follows. -/
theorem run_going_stops (hrest : Stops level rest) (hfuel : rest.length < fuel) :
    (going room level fuel expr).run rest = .ok (expr, rest) := by
  obtain ⟨fuel, rfl⟩ : ∃ less, fuel = less + 1 := ⟨fuel - 1, by omega⟩
  unfold going
  split
  case h_8 => exact run_suffixesFrom_stops hrest
  case h_9 => rfl
  all_goals exact run_chainFrom_stops (by decide) hrest

end Loops

end Canvasflow.Program.Reader
