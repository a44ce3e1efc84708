import Canvasflow.Proofs.Program.Following
import Canvasflow.Proofs.Program.Levels
import Canvasflow.Proofs.Program.Reading

/-!
# Every round of a loop takes a token

The loops of the readers go in rounds, and a round after which another one follows has taken a
token. So a loop ends by itself before it has gone through more rounds than there are tokens, which
is the bound that it is given: no larger bound would change what it gives.
-/

namespace Canvasflow.Program.Reader

variable {α β σ : Type}

/-- Rounds, at most the given number of them: each one goes from a state to the next, and tells
whether another round follows. -/
def looped (round : σ → Reader (σ × Bool)) : Nat → σ → Reader σ
  | 0, state => pure state
  | fuel + 1, state => do
    let (next, again) ← round state
    if again then looped round fuel next else return next

/-- The loop goes in rounds, and a round after which another one follows has taken a token. -/
def Progressive (loop : Nat → Reader σ) : Prop :=
  ∃ (round : σ → Reader (σ × Bool)) (start : σ), (∀ fuel, loop fuel = looped round fuel start) ∧
    ∀ (state : σ) (tokens : List Token) (next : σ) (rest : List Token),
      (round state).run tokens = .ok ((next, true), rest) → rest.length < tokens.length

/-- A loop ends by itself before it has gone through more rounds than there are tokens. -/
theorem Progressive.enough {loop : Nat → Reader σ} (h : Progressive loop) {tokens : List Token}
    {fuel fuel' : Nat} (hfuel : tokens.length < fuel) (hfuel' : tokens.length < fuel') :
    (loop fuel).run tokens = (loop fuel').run tokens := by
  obtain ⟨round, start, hloop, htakes⟩ := h
  rw [hloop, hloop]
  clear hloop
  -- the rounds that are left, of either bound, are more than the tokens that are left
  induction fuel generalizing fuel' tokens start with
  | zero => exact absurd hfuel (Nat.not_lt_zero _)
  | succ fuel ih =>
    obtain ⟨fuel', rfl⟩ : ∃ less, fuel' = less + 1 := ⟨fuel' - 1, by omega⟩
    rw [looped, looped, StateT.run_bind, StateT.run_bind]
    cases hround : (round start).run tokens with
    | error => rfl
    | ok result =>
      obtain ⟨⟨next, again⟩, rest⟩ := result
      cases again with
      | false => rfl
      | true =>
        have hrest := htakes start tokens next rest hround
        have hless : rest.length < fuel := by omega
        exact ih hless (by omega) next

/-! ## What a reader takes -/

/-- When the reader gives something, it has taken as many tokens as that costs. -/
def Costs (reader : Reader α) (cost : α → Nat) : Prop :=
  ∀ ⦃tokens : List Token⦄ ⦃a : α⦄ ⦃rest : List Token⦄, reader.run tokens = .ok (a, rest) →
    rest.length + cost a ≤ tokens.length

/-- What a round costs: a token if another round follows. -/
def roundCost (result : σ × Bool) : Nat :=
  if result.2 then 1 else 0

@[simp] theorem roundCost_again (state : σ) : roundCost (state, true) = 1 := rfl

@[simp] theorem roundCost_last (state : σ) : roundCost (state, false) = 0 := rfl

namespace Costs

variable {reader : Reader α} {cost : α → Nat}

theorem pure {a : α} (h : cost a = 0) : Costs (pure a) cost := by
  rintro tokens _ _ ⟨⟩
  rw [h, Nat.add_zero]

theorem less {cost' : α → Nat} (h : Costs reader cost) (hcost : ∀ a, cost' a ≤ cost a) :
    Costs reader cost' :=
  fun _ a _ hrun => Nat.le_trans (Nat.add_le_add_left (hcost a) _) (h hrun)

theorem after_pure {a : β} {rest : β → Reader α} (h : Costs (rest a) cost) :
    Costs (Pure.pure a >>= rest) cost := by
  rwa [pure_bind]

theorem bind {rest : α → Reader β} {cost' : β → Nat} (h : Costs reader cost)
    (hrest : ∀ a, Costs (rest a) fun b => cost' b - cost a) : Costs (reader >>= rest) cost' := by
  intro tokens b left hrun
  rw [StateT.run_bind] at hrun
  obtain ⟨⟨a, middle⟩, hrun₁, hrun₂⟩ := bind_eq_ok_iff.mp hrun
  have hfirst := h hrun₁
  have hsecond := hrest a hrun₂
  dsimp only at hsecond
  omega

theorem either {c : Prop} [Decidable c] {other : Reader α} (h : c → Costs reader cost)
    (hother : ¬ c → Costs other cost) : Costs (if c then reader else other) cost := by
  split_ifs with hc
  exacts [h hc, hother hc]

theorem of_follows {ahead taken : Nat}
    (h : ∀ limit, Follows Anywhere ahead taken limit reader reader) :
    Costs reader fun _ => taken := by
  intro tokens a rest hrun
  obtain ⟨used, rfl, htaken, -⟩ := (h _).takes tokens trivial (Nat.lt_succ_self _) hrun
  rw [List.length_append, Nat.add_comm]
  exact Nat.add_le_add_right htaken _

/-- A reader never leaves more tokens than there were. -/
theorem free {ahead taken : Nat} (h : ∀ limit, Follows Anywhere ahead taken limit reader reader) :
    Costs reader fun _ => 0 :=
  fun _ _ _ hrun => Nat.le_trans (Nat.le_add_right _ _) (of_follows h hrun)

theorem accept {kind : TokenKind} (hkind : kind ≠ .endOfText) {value : String} :
    Costs (accept kind value) fun taken => if taken then 1 else 0 := by
  intro tokens taken rest hrun
  obtain ⟨rfl, first, rfl⟩ | ⟨rfl, rfl⟩ := run_accept hkind hrun
  · simp
  · simp

theorem current {rest : Token → Reader α} (h : ∀ token, Costs (rest token) cost) :
    Costs (current >>= rest) cost :=
  fun _ _ _ hrun => h _ hrun

theorem atOp {op : String} {rest : Bool → Reader α} (h : ∀ found, Costs (rest found) cost) :
    Costs (atOp op >>= rest) cost :=
  fun _ _ _ hrun => h _ hrun

/-- What is read if an operator can be taken, and if it cannot. -/
theorem acceptOp {op : String} {yes no : Reader α} (hyes : Costs yes fun a => cost a - 1)
    (hno : Costs no cost) :
    Costs (acceptOp op >>= fun found => if found = true then yes else no) cost := by
  refine .bind (.accept (by decide)) fun found => .either (fun h => ?_) fun h => ?_
  · simpa [h] using hyes
  · simpa [h] using hno

theorem acceptFrom {table : List (String × α)} :
    Costs (acceptFrom table) fun op => if op.isSome then 1 else 0 := by
  intro tokens op rest hrun
  rw [Reader.acceptFrom, run_bind_ok run_current] at hrun
  split_ifs at hrun with hkind
  · cases tokens with
    | nil => cases hkind
    | cons first others =>
      split at hrun <;> cases hrun
      · exact Nat.le_refl _
      · exact Nat.le_refl _
  · cases hrun
    exact Nat.le_refl _

end Costs

/-! ## The rounds of each loop -/

theorem if_bind (c : Prop) [Decidable c] (yes no : Reader α) (next : α → Reader β) :
    (if c then yes else no) >>= next = if c then yes >>= next else no >>= next := by
  split_ifs <;> rfl

/-- A round of a chain of operators. -/
def chainRound (operand : Reader Expr) (table : List (String × α)) (join : Expr → α → Expr → Expr)
    (left : Expr) : Reader (Expr × Bool) := do
  match ← acceptFrom table with
  | some op => return (join left op (← operand), true)
  | none => return (left, false)

theorem chainFrom_eq (operand : Reader Expr) (table : List (String × α))
    (join : Expr → α → Expr → Expr) (fuel : Nat) (left : Expr) :
    chainFrom operand table join fuel left = looped (chainRound operand table join) fuel left := by
  induction fuel generalizing left with
  | zero => rfl
  | succ fuel ih =>
    rw [chainFrom, looped, chainRound, bind_assoc]
    congr
    funext op
    cases op with
    | none => rfl
    | some op => simp [ih]

/-- A round of the accesses and calls that follow an expression. -/
def suffixRound (item : Reader Expr) (expr : Expr) : Reader (Expr × Bool) := do
  if ← acceptOp "." then return (.read (.member expr (← memberName) false), true)
  else if ← acceptOp "?." then
    if ← acceptOp "[" then return (.read (.index expr (← bracketIndex item) true), true)
    else return (.read (.member expr (← memberName) true), true)
  else if ← acceptOp "[" then return (.read (.index expr (← bracketIndex item) false), true)
  else if ← acceptOp "(" then return (.call expr (← arguments item), true)
  else return (expr, false)

theorem suffixesFrom_eq (item : Reader Expr) (fuel : Nat) (expr : Expr) :
    suffixesFrom item fuel expr = looped (suffixRound item) fuel expr := by
  induction fuel generalizing expr with
  | zero => rfl
  | succ fuel ih =>
    rw [suffixesFrom, looped, suffixRound]
    simp [if_bind, ih]

/-- Parts that are collected in rounds: what a round adds to the parts before it, and whether
another round follows. -/
def collecting (round : Reader (List α × Bool)) (before : List α) : Reader (List α × Bool) := do
  let (parts, again) ← round
  return (before ++ parts, again)

theorem looped_collecting {round : Reader (List α × Bool)} {loop : Nat → Reader (List α)}
    (hzero : loop 0 = pure [])
    (hsucc : ∀ fuel, loop (fuel + 1) = do
      let (parts, again) ← round
      if again then return parts ++ (← loop fuel) else return parts)
    (fuel : Nat) (before : List α) :
    looped (collecting round) fuel before = do return before ++ (← loop fuel) := by
  induction fuel generalizing before with
  | zero => simp [looped, hzero]
  | succ fuel ih =>
    rw [looped, hsucc, collecting, bind_assoc, bind_assoc]
    congr
    funext ⟨parts, again⟩
    cases again with
    | false => rfl
    | true => simp only [pure_bind, reduceIte, ih, bind_assoc, List.append_assoc]

/-- A round of a list with commas between its parts. -/
def separatedRound (part : Reader α) (close : String) : Reader (List α × Bool) := do
  if ← acceptOp close then return ([], false)
  let first ← part
  if !(← atOp close) then expectOp ","
  return ([first], true)

/-- A round of the declarations after a declaring word. -/
def declarationRound (item : Reader Expr) (declarator : Declarator) :
    Reader (List Stmt × Bool) := do
  let name ← expectName
  let value ←
    if ← acceptOp "=" then pure (some (← item))
    else if declarator = .constName then
      throw (.missingInitializer name (← current).position)
    else pure none
  return ([.declare declarator name value], ← acceptOp ",")

/-- A round of the statements of a block. -/
def statementRound (statement : Reader Stmt) : Reader (List Stmt × Bool) := do
  if ← acceptOp "\x7d" then return ([], false)
  let token ← current
  if token.kind = .endOfText then throw (.unterminatedBlock token.position)
  let first ← statement
  return ([first], true)

theorem separated_succ (part : Reader α) (close : String) (fuel : Nat) :
    separated part close (fuel + 1) = (do
      let (parts, again) ← separatedRound part close
      if again then return parts ++ (← separated part close fuel) else return parts) := by
  rw [separated, separatedRound]
  simp [if_bind]

theorem declarationsFrom_succ (item : Reader Expr) (declarator : Declarator) (fuel : Nat) :
    declarationsFrom item declarator (fuel + 1) = (do
      let (parts, again) ← declarationRound item declarator
      if again then return parts ++ (← declarationsFrom item declarator fuel)
      else return parts) := by
  rw [declarationsFrom, declarationRound]
  simp [if_bind]

theorem statementsFrom_succ (statement : Reader Stmt) (fuel : Nat) :
    statementsFrom statement (fuel + 1) = (do
      let (parts, again) ← statementRound statement
      if again then return parts ++ (← statementsFrom statement fuel) else return parts) := by
  rw [statementsFrom, statementRound]
  simp [if_bind]

/-! ## Loops -/

section Items

variable {item : Reader Expr} (hitem : ∀ limit, Follows Anywhere 1 1 limit item item)

include hitem

theorem chainRound_costs (table : List (String × α)) (join : Expr → α → Expr → Expr) (left : Expr) :
    Costs (chainRound item table join left) roundCost := by
  refine .bind .acceptFrom fun op => ?_
  cases op with
  | none => exact .pure (by simp)
  | some op => exact .bind (.free hitem) fun _ => .pure (by simp)

theorem suffixRound_costs (expr : Expr) : Costs (suffixRound item expr) roundCost := by
  have hmember (optional : Bool) :
      Costs (do return (.read (.member expr (← memberName) optional), true))
        fun result : Expr × Bool => roundCost result - 1 :=
    .bind (.free fun _ => memberName_follows) fun _ => .pure (by simp)
  have hindex (optional : Bool) :
      Costs (do return (.read (.index expr (← bracketIndex item) optional), true))
        fun result : Expr × Bool => roundCost result - 1 :=
    .bind (.free (bracketIndex_follows hitem)) fun _ => .pure (by simp)
  refine .acceptOp (hmember false) (.acceptOp ?_ (.acceptOp (hindex false) (.acceptOp ?_ ?_)))
  · exact .acceptOp ((hindex true).less fun _ => Nat.sub_le _ _) (hmember true)
  · exact .bind (.free (arguments_follows hitem)) fun _ => .pure (by simp)
  · exact .pure (by simp)

theorem declarationRound_costs (declarator : Declarator) :
    Costs (declarationRound item declarator) roundCost := by
  have hcomma (stmt : Stmt) : Costs (do return ([stmt], ← acceptOp ","))
      fun result : List Stmt × Bool => roundCost result - 1 :=
    .bind (.accept (by decide)) fun comma => .pure (by simp [roundCost])
  refine .bind (.of_follows fun _ => expectName_follows) fun name =>
    .acceptOp (.bind (.free hitem) fun value => .after_pure ?_)
      (.either (fun _ => ?_) fun _ => .after_pure (hcomma _))
  · exact (hcomma _).less fun _ => by omega
  · -- a constant without a value is refused
    exact fun _ _ _ hrun => nomatch hrun

end Items

theorem separatedRound_costs {part : Reader α}
    (hpart : ∀ limit, Follows Anywhere 1 1 limit part part) (close : String) :
    Costs (separatedRound part close) roundCost := by
  refine .acceptOp (.pure (by simp)) (.bind (.of_follows hpart) fun first => ?_)
  have hfirst : Costs (pure ([first], true)) fun result : List α × Bool => roundCost result - 1 :=
    .pure (by simp)
  refine .atOp fun last => .either (fun _ => .bind (.free fun _ => expectOp_follows) fun _ => ?_)
    fun _ => hfirst
  exact hfirst

theorem statementRound_costs {statement : Reader Stmt}
    (hstatement : ∀ limit, Follows Anywhere 1 1 limit statement statement) :
    Costs (statementRound statement) roundCost := by
  refine .acceptOp (.pure (by simp)) (.current fun token =>
    .either (fun _ _ _ _ hrun => nomatch hrun) fun _ => ?_)
  exact .bind (.of_follows hstatement) fun first => .pure (by simp)

theorem progressive_looped {round : σ → Reader (σ × Bool)}
    (h : ∀ state, Costs (round state) roundCost) (start : σ) :
    Progressive fun fuel => looped round fuel start :=
  ⟨round, start, fun _ => rfl, fun state _ _ _ hrun => h state hrun⟩

theorem progressive_collecting {round : Reader (List α × Bool)} {loop : Nat → Reader (List α)}
    (hzero : loop 0 = pure [])
    (hsucc : ∀ fuel, loop (fuel + 1) = do
      let (parts, again) ← round
      if again then return parts ++ (← loop fuel) else return parts)
    (h : Costs round roundCost) : Progressive loop := by
  have hloop (fuel : Nat) : loop fuel = looped (collecting round) fuel [] := by
    simp [looped_collecting hzero hsucc]
  have hround (before : List α) : Costs (collecting round before) roundCost :=
    .bind h fun result => .pure (Nat.sub_self _)
  rw [funext hloop]
  exact progressive_looped hround []

/-- The loops of the readers, where expressions and statements inside them have the given room:
behind an expression at the levels that group to the left, over the items of a list, the parts of a
record, the declarations after a word and the statements of a block. -/
inductive Loop (room : Nat) : {σ : Type} → (Nat → Reader σ) → Prop where
  | behind {level : Nat} (h : level ∈ loopLevels) (left : Expr) :
    Loop room fun fuel => going room level fuel left
  | items (close : String) : Loop room (itemsUntil (expression room) close)
  | entries : Loop room (entriesFrom (expression room))
  | declarations (declarator : Declarator) :
    Loop room (declarationsFrom (expression room) declarator)
  | statements : Loop room (statementsFrom (statement room))

theorem going_progressive (room : Nat) {level : Nat} (h : level ∈ loopLevels) (left : Expr) :
    Progressive fun fuel => going room level fuel left := by
  have hchain {α : Type} {operand : Reader Expr}
      (hoperand : ∀ limit, Follows Anywhere 1 1 limit operand operand) (table : List (String × α))
      (join : Expr → α → Expr → Expr) :
      Progressive fun fuel => chainFrom operand table join fuel left := by
    simp only [chainFrom_eq]
    exact progressive_looped (chainRound_costs hoperand table join) left
  have hpower := (expression_follows (room + 2)).2.1
  have hmultiplicative (limit : Nat) : Follows Anywhere 1 1 limit
      (multiplicative (power (room + 2))) (multiplicative (power (room + 2))) :=
    chain_follows hpower limit
  have hadditive (limit : Nat) : Follows Anywhere 1 1 limit
      (additive (power (room + 2))) (additive (power (room + 2))) :=
    chain_follows hmultiplicative limit
  have hrelational (limit : Nat) : Follows Anywhere 1 1 limit
      (relational (power (room + 2))) (relational (power (room + 2))) :=
    chain_follows hadditive limit
  have hequality (limit : Nat) : Follows Anywhere 1 1 limit
      (equality (power (room + 2))) (equality (power (room + 2))) :=
    chain_follows hrelational limit
  have hconjunction (limit : Nat) : Follows Anywhere 1 1 limit
      (conjunction (power (room + 2))) (conjunction (power (room + 2))) :=
    chain_follows hequality limit
  have hdisjunction (limit : Nat) : Follows Anywhere 1 1 limit
      (disjunction (power (room + 2))) (disjunction (power (room + 2))) :=
    chain_follows hconjunction limit
  have hsuffixes : Progressive fun fuel => suffixesFrom (expression room) fuel left := by
    simp only [suffixesFrom_eq]
    exact progressive_looped (suffixRound_costs (expression_follows room).1) left
  simp only [loopLevels, List.mem_cons, List.not_mem_nil, or_false] at h
  obtain rfl | rfl | rfl | rfl | rfl | rfl | rfl | rfl := h
  exacts [hchain hdisjunction _ _, hchain hconjunction _ _, hchain hequality _ _,
    hchain hrelational _ _, hchain hadditive _ _, hchain hmultiplicative _ _, hchain hpower _ _,
    hsuffixes]

/-- Every loop goes in rounds that take tokens. -/
theorem Loop.progressive {room : Nat} {loop : Nat → Reader σ} (h : Loop room loop) :
    Progressive loop := by
  have hitem := (expression_follows room).1
  have hlist {α : Type} {part : Reader α} (hpart : ∀ limit, Follows Anywhere 1 1 limit part part)
      (close : String) : Progressive (separated part close) :=
    progressive_collecting rfl (separated_succ part close) (separatedRound_costs hpart close)
  cases h with
  | behind h left => exact going_progressive room h left
  | items close =>
    rw [funext (itemsUntil_eq _ close)]
    exact hlist hitem close
  | entries =>
    rw [funext (entriesFrom_eq _)]
    exact hlist (entry_follows hitem) "\x7d"
  | declarations declarator =>
    exact progressive_collecting rfl (declarationsFrom_succ _ declarator)
      (declarationRound_costs hitem declarator)
  | statements =>
    exact progressive_collecting rfl (statementsFrom_succ _)
      (statementRound_costs (statement_follows room))

end Canvasflow.Program.Reader
