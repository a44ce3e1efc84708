import Canvasflow.Proofs.Program.Following
import Canvasflow.Proofs.Program.Nodes

/-!
# Readers stay within the text

The tokens of a text end with the only token that is the end of the text, and no reader goes past
it. `Stays` states this of two readers, of which the second may have more room, and sees further
tokens after the end of the text: they give the same and leave the same, or they fail alike, at a
token of the text. So neither the room nor what a reader sees beyond the text has a part in what it
gives. The relation also carries what every tree that is read is made of.
-/

namespace Canvasflow.Program

/-- Tokens of which the last one is the end of the text, and no other is. -/
inductive Ended : List Token → Prop where
  | last {token : Token} (h : token.kind = .endOfText) : Ended [token]
  | cons {token : Token} {rest : List Token} (h : token.kind ≠ .endOfText) (hrest : Ended rest) :
    Ended (token :: rest)

/-- What a fault is about is one of the tokens. -/
def SyntaxFault.About (tokens : List Token) : SyntaxFault → Prop
  | expected _ found | afterEnd found | expectedProperty found | unexpectedToken found
  | unexpectedEntry found => found ∈ tokens
  | unterminatedBlock position | missingInitializer _ position | invalidTarget position
  | invalidOperand _ position | missingColon _ position =>
    ∃ token ∈ tokens, token.position = position
  | unexpectedCharacter .. | nestedTooDeeply => False

/-- How two readers end on some tokens of a text, the second with `extra` tokens after them. They
give the same, of a `kind`, and have taken the same tokens, at least `taken` of them and not the end
of the text; or they fail alike at a token of the text; or the first is out of room, if it may be
`deep`. -/
inductive Ends {α : Type} (all : List Token) (deep : Prop) (taken : Nat) (kind : α → Prop)
    (tokens extra : List Token) :
    Except SyntaxFault (α × List Token) → Except SyntaxFault (α × List Token) → Prop where
  | given {a : α} {used rest : List Token} (hused : tokens = used ++ rest)
    (htaken : taken ≤ used.length) (hrest : Ended rest) (hkind : kind a) :
    Ends all deep taken kind tokens extra (.ok (a, rest)) (.ok (a, rest ++ extra))
  | refused {fault : SyntaxFault} (habout : fault.About all) :
    Ends all deep taken kind tokens extra (.error fault) (.error fault)
  | tooDeep (hdeep : deep) (other : Except SyntaxFault (α × List Token)) :
    Ends all deep taken kind tokens extra (.error .nestedTooDeeply) other

/-- The second reader ends as the first, where the first is on fewer than `limit` of the last tokens
of a text, which satisfy `start`. -/
def Stays {α : Type} (all : List Token) (deep : Prop) (start : List Token → Prop)
    (taken limit : Nat) (kind : α → Prop) (first second : Reader α) : Prop :=
  ∀ ⦃tokens : List Token⦄ (extra : List Token), tokens <:+ all → Ended tokens → start tokens →
    tokens.length < limit →
    Ends all deep taken kind tokens extra (first.run tokens) (second.run (tokens ++ extra))

theorem Ends.after {α : Type} {all : List Token} {deep : Prop} {taken taken' : Nat}
    {kind : α → Prop} {tokens used rest extra : List Token}
    {result other : Except SyntaxFault (α × List Token)} (hused : tokens = used ++ rest)
    (htaken : taken' ≤ used.length)
    (h : Ends all deep (taken - taken') kind rest extra result other) :
    Ends all deep taken kind tokens extra result other := by
  cases h with
  | @given a used' _ hused' htaken' hrest hkind =>
    subst hused hused'
    refine .given (List.append_assoc ..).symm ?_ hrest hkind
    rw [List.length_append]
    omega
  | refused habout => exact .refused habout
  | tooDeep hdeep other => exact .tooDeep hdeep other

namespace Stays

variable {α β : Type} {all : List Token} {deep : Prop} {start : List Token → Prop}
  {taken limit : Nat} {kind : α → Prop} {first second : Reader α}

theorem pure {a : α} (h : kind a) : Stays all deep start 0 limit kind (pure a) (pure a) :=
  fun _ _ _ hended _ _ => .given (List.nil_append _).symm (Nat.zero_le _) hended h

/-- A reader that is out of room. -/
theorem tooDeep (h : deep ∨ limit = 0) :
    Stays all deep start taken limit kind (throw .nestedTooDeeply : Reader α) second := by
  intro tokens extra _ _ _ hlimit
  obtain hdeep | rfl := h
  · exact .tooDeep hdeep _
  · exact absurd hlimit (Nat.not_lt_zero _)

theorem throw {fault : SyntaxFault} (h : fault.About all) :
    Stays all deep start taken limit kind (throw fault : Reader α) (throw fault) :=
  fun _ _ _ _ _ _ => .refused h

/-- On no tokens at all there is nothing to show. -/
theorem nothing : Stays all deep start taken 0 kind first second :=
  fun _ _ _ _ _ hlimit => absurd hlimit (Nat.not_lt_zero _)

theorem narrow {start' : List Token → Prop} (h : Stays all deep start taken limit kind first second)
    (hstart : ∀ tokens, start' tokens → start tokens) :
    Stays all deep start' taken limit kind first second :=
  fun _ extra hall hended hstart' => h extra hall hended (hstart _ hstart')

theorem anywhere (h : Stays all deep Anywhere taken limit kind first second) :
    Stays all deep start taken limit kind first second :=
  h.narrow fun _ _ => trivial

/-- A reader that takes more tokens than it has to. -/
theorem more (n : Nat) (h : Stays all deep start (taken + n) limit kind first second) :
    Stays all deep start taken limit kind first second := by
  intro tokens extra hall hended hstart hlimit
  have hends := h extra hall hended hstart hlimit
  generalize first.run tokens = result, second.run (tokens ++ extra) = other at hends ⊢
  cases hends with
  | given hused htaken hrest hkind =>
    exact .given hused (Nat.le_trans (Nat.le_add_right taken n) htaken) hrest hkind
  | refused habout => exact .refused habout
  | tooDeep hdeep other => exact .tooDeep hdeep other

theorem bind {taken' : Nat} {kind' : β → Prop} {rest rest' : α → Reader β}
    (hfirst : Stays all deep start taken' limit kind first second)
    (hrest : ∀ a, kind a →
      Stays all deep Anywhere (taken - taken') (limit - taken') kind' (rest a) (rest' a)) :
    Stays all deep start taken limit kind' (first >>= rest) (second >>= rest') := by
  intro tokens extra hall hended hstart hlimit
  rw [StateT.run_bind, StateT.run_bind]
  have hends := hfirst extra hall hended hstart hlimit
  generalize first.run tokens = result, second.run (tokens ++ extra) = other at hends ⊢
  cases hends with
  | @given a used left hused htaken hleft hkind =>
    have hlength : tokens.length = used.length + left.length := by simp [hused]
    have hsuffix : left <:+ all := .trans ⟨used, hused.symm⟩ hall
    exact (hrest a hkind extra hsuffix hleft trivial (by omega)).after hused htaken
  | refused habout => exact .refused habout
  | tooDeep hdeep other => exact .tooDeep hdeep _

theorem after_pure {a : β} {rest rest' : β → Reader α}
    (h : Stays all deep start taken limit kind (rest a) (rest' a)) :
    Stays all deep start taken limit kind (Pure.pure a >>= rest) (Pure.pure a >>= rest') := by
  rwa [pure_bind, pure_bind]

/-- Alternatives that are chosen alike. -/
theorem either {c : Prop} [Decidable c] {other other' : Reader α}
    (h : c → Stays all deep start taken limit kind first second)
    (hother : ¬ c → Stays all deep start taken limit kind other other') :
    Stays all deep start taken limit kind (if c then first else other)
      (if c then second else other') := by
  split_ifs with hc
  exacts [h hc, hother hc]

end Stays

theorem Ended.exists_cons {tokens : List Token} (h : Ended tokens) :
    ∃ token rest, tokens = token :: rest := by
  cases h with
  | last _ => exact ⟨_, _, rfl⟩
  | cons _ _ => exact ⟨_, _, rfl⟩

namespace Reader

variable {α β : Type} {all : List Token} {deep : Prop} {start : List Token → Prop}
  {taken limit : Nat} {kind : β → Prop}

/-! ## Single tokens -/

/-- What is read after a look at the first token, which is there. -/
theorem current_stays {rest rest' : Token → Reader β}
    (hrest : ∀ token ∈ all,
      Stays all deep (fun tokens => start tokens ∧ Before token tokens) taken limit kind
        (rest token) (rest' token)) :
    Stays all deep start taken limit kind (current >>= rest) (current >>= rest') := by
  intro tokens extra hall hended hstart hlimit
  obtain ⟨token, others, rfl⟩ := hended.exists_cons
  exact hrest token (hall.subset List.mem_cons_self) extra hall hended ⟨hstart, rfl⟩ hlimit

/-- What is read after the first token is taken, which is not the end of the text. -/
theorem advance_stays {token : Token} (htoken : token.kind ≠ .endOfText)
    (hstart : ∀ tokens, start tokens → Before token tokens) {rest rest' : Unit → Reader β}
    (hrest : Stays all deep Anywhere (taken - 1) (limit - 1) kind (rest ()) (rest' ())) :
    Stays all deep start taken limit kind (advance >>= rest) (advance >>= rest') := by
  intro tokens extra hall hended hstart' hlimit
  have hbefore := hstart tokens hstart'
  cases hended with
  | last hlast =>
    obtain rfl : _ = token := hbefore
    exact absurd hlast htoken
  | @cons first others _ hothers =>
    have hlength : others.length < limit - 1 := by
      rw [List.length_cons] at hlimit
      omega
    exact (hrest extra (.trans (List.suffix_cons ..) hall) hothers trivial hlength).after
      (List.singleton_append (x := first)).symm (Nat.le_refl 1)

/-- What is read after a token that may be taken. -/
theorem accept_stays {wanted : TokenKind} (hwanted : wanted ≠ .endOfText) {value : String}
    {rest rest' : Bool → Reader β}
    (htaken : Stays all deep Anywhere (taken - 1) (limit - 1) kind (rest true) (rest' true))
    (hleft : Stays all deep start taken limit kind (rest false) (rest' false)) :
    Stays all deep start taken limit kind (accept wanted value >>= rest)
      (accept wanted value >>= rest') := by
  rw [accept_bind, accept_bind]
  refine current_stays fun token _ => .either (fun htoken => ?_) fun _ => ?_
  · refine advance_stays ?_ (fun _ h => h.2) htaken
    simp only [isToken, Bool.and_eq_true, beq_iff_eq] at htoken
    exact htoken.1 ▸ hwanted
  · exact hleft.narrow fun _ h => h.1

section Either

variable {yes yes' no no' : Reader β}

/-- What is read if an operator can be taken, and if it cannot. -/
theorem acceptOp_stays {op : String}
    (hyes : Stays all deep Anywhere (taken - 1) (limit - 1) kind yes yes')
    (hno : Stays all deep start taken limit kind no no') :
    Stays all deep start taken limit kind
      (acceptOp op >>= fun found => if found = true then yes else no)
      (acceptOp op >>= fun found => if found = true then yes' else no') :=
  accept_stays (by decide) (by simpa using hyes) (by simpa using hno)

/-- What is read if a keyword can be taken, and if it cannot. -/
theorem keyword_stays {word : String}
    (hyes : Stays all deep Anywhere (taken - 1) (limit - 1) kind yes yes')
    (hno : Stays all deep start taken limit kind no no') :
    Stays all deep start taken limit kind
      (accept .keyword word >>= fun found => if found = true then yes else no)
      (accept .keyword word >>= fun found => if found = true then yes' else no') :=
  accept_stays (by decide) (by simpa using hyes) (by simpa using hno)

end Either

/-- What is read after a look at the first token for an operator. -/
theorem atOp_stays {op : String} {rest rest' : Bool → Reader β}
    (hrest : ∀ found, Stays all deep start taken limit kind (rest found) (rest' found)) :
    Stays all deep start taken limit kind (atOp op >>= rest) (atOp op >>= rest') := by
  unfold atOp
  rw [bind_assoc, bind_assoc]
  exact current_stays fun _ _ => (hrest _).narrow fun _ h => h.1

/-- A value of which nothing has to hold. -/
def Any (_ : α) : Prop := True

theorem expectOp_stays {op : String} :
    Stays all deep start 1 limit Any (expectOp op) (expectOp op) := by
  refine current_stays fun token htoken => .either (fun hop => ?_) fun _ => .throw htoken
  simp only [isToken, Bool.and_eq_true, beq_iff_eq] at hop
  rw [← bind_pure_unit (x := advance)]
  exact advance_stays (by simp [hop.1]) (fun _ h => h.2) (.pure trivial)

theorem expectName_stays : Stays all deep start 1 limit Any expectName expectName :=
  current_stays fun token htoken => .either
    (fun hname => advance_stays (by simp [hname]) (fun _ h => h.2) (.pure trivial))
    fun _ => .throw htoken

theorem memberName_stays : Stays all deep start 1 limit Any memberName memberName :=
  current_stays fun token htoken => .either
    (fun hname => advance_stays (by intro hend; simp [hend] at hname) (fun _ h => h.2)
      (.pure trivial))
    fun _ => .throw htoken

theorem expectEnd_stays : Stays all deep start 0 limit Any expectEnd expectEnd :=
  current_stays fun _ htoken => .either (fun _ => .throw htoken) fun _ => .pure trivial

/-- What is read after an operator that has to be the first token. -/
theorem after_stays {op : String} {rest rest' : Unit → Reader β}
    (hrest : Stays all deep Anywhere (taken - 1) (limit - 1) kind (rest ()) (rest' ())) :
    Stays all deep start taken limit kind (expectOp op >>= rest) (expectOp op >>= rest') :=
  .bind expectOp_stays fun _ _ => hrest

/-- What is read after a row of a table that may be taken. -/
theorem acceptRow_stays {wanted : TokenKind} (hwanted : wanted ≠ .endOfText)
    {table : List (String × α)} {rest rest' : Option α → Reader β}
    (htaken : ∀ row ∈ table,
      Stays all deep Anywhere (taken - 1) (limit - 1) kind (rest (some row.2)) (rest' (some row.2)))
    (hleft : Stays all deep start taken limit kind (rest none) (rest' none)) :
    Stays all deep start taken limit kind (acceptRow wanted table >>= rest)
      (acceptRow wanted table >>= rest') := by
  rw [acceptRow_bind, acceptRow_bind]
  refine current_stays fun token _ => .either (fun hfound => ?_) fun _ => ?_
  · split
    · next row hrow =>
      exact advance_stays (hfound ▸ hwanted) (fun _ h => h.2) (htaken _ (Entries.mem_of_find? hrow))
    · exact hleft.narrow fun _ h => h.1
  · exact hleft.narrow fun _ h => h.1

/-- What is read after an operator of a table that may be taken. -/
theorem acceptFrom_stays {table : List (String × α)} {rest rest' : Option α → Reader β}
    (htaken : ∀ row ∈ table,
      Stays all deep Anywhere (taken - 1) (limit - 1) kind (rest (some row.2)) (rest' (some row.2)))
    (hleft : Stays all deep start taken limit kind (rest none) (rest' none)) :
    Stays all deep start taken limit kind (acceptFrom table >>= rest)
      (acceptFrom table >>= rest') :=
  acceptRow_stays (by decide) htaken hleft

/-- What is read after a declaring word that may be taken. -/
theorem acceptDeclarator_stays {rest rest' : Option Declarator → Reader β}
    (htaken : ∀ declarator,
      Stays all deep Anywhere (taken - 1) (limit - 1) kind (rest (some declarator))
        (rest' (some declarator)))
    (hleft : Stays all deep start taken limit kind (rest none) (rest' none)) :
    Stays all deep start taken limit kind (acceptDeclarator >>= rest)
      (acceptDeclarator >>= rest') := by
  rw [acceptDeclarator_eq]
  exact acceptRow_stays (by decide) (fun row _ => htaken row.2) hleft

/-- What is read with a bound for the tokens that are left. -/
theorem bound_stays {rest rest' : Nat → Reader β}
    (hrest : ∀ fuel fuel', fuel ≤ limit → fuel ≤ fuel' →
      Stays all deep start taken fuel kind (rest fuel) (rest' fuel')) :
    Stays all deep start taken limit kind (bound >>= rest) (bound >>= rest') := by
  intro tokens extra hall hended hstart hlimit
  refine hrest _ _ hlimit ?_ extra hall hended hstart (Nat.lt_succ_self _)
  rw [List.length_append]
  omega

/-! ## Lists -/

section Lists

variable {part part' : Reader α} {formed : α → Prop} {most : Nat}
  (hpart : ∀ limit ≤ most, Stays all deep Anywhere 1 limit formed part part')

include hpart

theorem separated_stays {close : String} {fuel fuel' : Nat} (hmost : limit ≤ most)
    (hlimit : limit ≤ fuel) (hfuel : fuel ≤ fuel') :
    Stays all deep Anywhere 1 limit (fun parts => ∀ part ∈ parts, formed part)
      (separated part close fuel) (separated part' close fuel') := by
  induction fuel generalizing limit fuel' with
  | zero =>
    obtain rfl := Nat.le_zero.mp hlimit
    exact .nothing
  | succ fuel ih =>
    obtain ⟨fuel', rfl⟩ : ∃ more, fuel' = more + 1 := ⟨fuel' - 1, by omega⟩
    have hrest (first : α) (hfirst : formed first) (limit : Nat) (hmost : limit ≤ most)
        (hlimit : limit ≤ fuel) :
        Stays all deep Anywhere 0 limit (fun parts => ∀ part ∈ parts, formed part)
          (do return first :: (← separated part close fuel))
          (do return first :: (← separated part' close fuel')) :=
      .bind (.more 1 (ih hmost hlimit (by omega))) fun rest hrest =>
        .pure (List.forall_mem_cons.mpr ⟨hfirst, hrest⟩)
    refine acceptOp_stays (.pure (by simp)) (.bind (hpart _ hmost) fun first hfirst => ?_)
    exact atOp_stays fun last => .either
      (fun _ => after_stays (hrest first hfirst _ (by omega) (by omega)))
      fun _ => hrest first hfirst _ (by omega) (by omega)

end Lists

/-! ## Expressions -/

/-- Of a stepping operator, the operand has to be a place. -/
theorem updated_stays {target : Expr} (htarget : target.WellFormed) (op : UpdateOp) (before : Bool)
    {token : Token} (htoken : token ∈ all) :
    Stays all deep start 0 limit Expr.WellFormed
      (match target.place? with
        | some place => return .update place op before
        | none => throw (.invalidOperand op.symbol token.position) : Reader Expr)
      (match target.place? with
        | some place => return .update place op before
        | none => throw (.invalidOperand op.symbol token.position)) := by
  split
  · next place hplace =>
    cases target with
    | read target =>
      obtain rfl : target = place := Option.some.inj hplace
      exact .pure ⟨target.isTarget_node, op.symbol_mem, htarget⟩
    | _ => cases hplace
  · exact .throw ⟨token, htoken, rfl⟩

section Items

variable {item item' : Reader Expr} {most : Nat}
  (hitem : ∀ limit ≤ most, Stays all deep Anywhere 1 limit Expr.WellFormed item item')

include hitem

theorem chainFrom_stays {table : List (String × α)} {join : Expr → α → Expr → Expr}
    (hjoin : ∀ left op right, left.WellFormed → right.WellFormed → (join left op right).WellFormed)
    {fuel fuel' : Nat} (hmost : limit ≤ most) (hlimit : limit ≤ fuel) (hfuel : fuel ≤ fuel')
    {left : Expr} (hleft : left.WellFormed) :
    Stays all deep Anywhere 0 limit Expr.WellFormed (chainFrom item table join fuel left)
      (chainFrom item' table join fuel' left) := by
  induction fuel generalizing limit fuel' left with
  | zero =>
    obtain rfl := Nat.le_zero.mp hlimit
    exact .nothing
  | succ fuel ih =>
    obtain ⟨fuel', rfl⟩ : ∃ more, fuel' = more + 1 := ⟨fuel' - 1, by omega⟩
    refine acceptFrom_stays (fun op _ => .bind (hitem _ (by omega)) fun right hright => ?_)
      (.pure hleft)
    exact ih (by omega) (by omega) (by omega) (hjoin _ _ _ hleft hright)

theorem chain_stays {table : List (String × α)} {join : Expr → α → Expr → Expr}
    (hjoin : ∀ left op right, left.WellFormed → right.WellFormed → (join left op right).WellFormed)
    (limit : Nat) (hmost : limit ≤ most) :
    Stays all deep Anywhere 1 limit Expr.WellFormed (chain item table join)
      (chain item' table join) :=
  .bind (hitem limit hmost) fun _ hleft => bound_stays fun _ _ hfew hfuel =>
    chainFrom_stays hitem hjoin (by omega) (Nat.le_refl _) hfuel hleft

theorem operators_stays (limit : Nat) (hmost : limit ≤ most) :
    Stays all deep Anywhere 1 limit Expr.WellFormed (operators item) (operators item') := by
  have hbinary (left : Expr) (op : BinaryOp) (right : Expr) (hleft : left.WellFormed)
      (hright : right.WellFormed) : (Expr.binary left op right).WellFormed :=
    ⟨op.symbol_mem, hleft, hright⟩
  have hlogical (left : Expr) (op : LogicalOp) (right : Expr) (hleft : left.WellFormed)
      (hright : right.WellFormed) : (Expr.logical left op right).WellFormed :=
    ⟨op.symbol_mem, hleft, hright⟩
  exact chain_stays (chain_stays (chain_stays (chain_stays (chain_stays (chain_stays
    (chain_stays hitem hbinary) hbinary) hbinary) hbinary) hlogical) hlogical) hlogical limit hmost

theorem itemsUntil_stays {close : String} {fuel fuel' : Nat} (hmost : limit ≤ most)
    (hlimit : limit ≤ fuel) (hfuel : fuel ≤ fuel') :
    Stays all deep Anywhere 0 limit (fun items => ∀ item ∈ items, item.WellFormed)
      (itemsUntil item close fuel) (itemsUntil item' close fuel') := by
  rw [itemsUntil_eq, itemsUntil_eq]
  exact (separated_stays hitem hmost hlimit hfuel).more 1

theorem arguments_stays (hmost : limit ≤ most) :
    Stays all deep Anywhere 0 limit (fun items => ∀ item ∈ items, item.WellFormed)
      (arguments item) (arguments item') :=
  bound_stays fun _ _ hfew hfuel =>
    itemsUntil_stays hitem (Nat.le_trans hfew hmost) (Nat.le_refl _) hfuel

theorem bracketIndex_stays (hmost : limit ≤ most) :
    Stays all deep Anywhere 1 limit Expr.WellFormed (bracketIndex item) (bracketIndex item') :=
  .bind (hitem limit hmost) fun _ hindex => after_stays (.pure hindex)

theorem suffixesFrom_stays {fuel fuel' : Nat} (hmost : limit ≤ most + 1) (hlimit : limit ≤ fuel)
    (hfuel : fuel ≤ fuel') {expr : Expr} (hexpr : expr.WellFormed) :
    Stays all deep Anywhere 0 limit Expr.WellFormed (suffixesFrom item fuel expr)
      (suffixesFrom item' fuel' expr) := by
  induction fuel generalizing limit fuel' expr with
  | zero =>
    obtain rfl := Nat.le_zero.mp hlimit
    exact .nothing
  | succ fuel ih =>
    obtain ⟨fuel', rfl⟩ : ∃ more, fuel' = more + 1 := ⟨fuel' - 1, by omega⟩
    have hmember (optional : Bool) (limit : Nat) (hmost : limit ≤ most) (hlimit : limit ≤ fuel) :
        Stays all deep Anywhere 0 limit Expr.WellFormed
          (do suffixesFrom item fuel (.read (.member expr (← memberName) optional)))
          (do suffixesFrom item' fuel' (.read (.member expr (← memberName) optional))) :=
      .bind memberName_stays fun name _ => ih (by omega) (by omega) (by omega) hexpr
    have hindex (optional : Bool) (limit : Nat) (hmost : limit ≤ most) (hlimit : limit ≤ fuel) :
        Stays all deep Anywhere 0 limit Expr.WellFormed
          (do suffixesFrom item fuel (.read (.index expr (← bracketIndex item) optional)))
          (do suffixesFrom item' fuel' (.read (.index expr (← bracketIndex item') optional))) :=
      .bind (bracketIndex_stays hitem hmost) fun index hindex =>
        ih (by omega) (by omega) (by omega) ⟨hexpr, hindex⟩
    refine acceptOp_stays (hmember false _ (by omega) (by omega)) (acceptOp_stays ?_ ?_)
    · exact acceptOp_stays (hindex true _ (by omega) (by omega))
        (hmember true _ (by omega) (by omega))
    · refine acceptOp_stays (hindex false _ (by omega) (by omega))
        (acceptOp_stays ?_ (.pure hexpr))
      exact .bind (arguments_stays hitem (by omega)) fun args hargs =>
        ih (by omega) (by omega) (by omega) ⟨hexpr, areExpressions_nodes.mpr hargs⟩

theorem entry_stays (hmost : limit ≤ most + 1) :
    Stays all deep Anywhere 1 limit Entry.WellFormed (entry item) (entry item') := by
  refine current_stays fun token htoken => acceptOp_stays ?_
    (.either (fun hkey => ?_) fun _ => .throw htoken)
  · exact .bind (hitem _ (by omega)) fun _ hexpr => .pure hexpr
  · refine advance_stays (by intro hend; simp [hend, startsKey] at hkey) (fun _ h => h.2) ?_
    refine acceptOp_stays (.bind (hitem _ (by omega)) fun _ hexpr => .pure hexpr) ?_
    exact .either (fun _ => .pure trivial) fun _ => .throw ⟨token, htoken, rfl⟩

theorem entriesFrom_stays {fuel fuel' : Nat} (hmost : limit ≤ most + 1) (hlimit : limit ≤ fuel)
    (hfuel : fuel ≤ fuel') :
    Stays all deep Anywhere 1 limit (fun entries => ∀ entry ∈ entries, entry.WellFormed)
      (entriesFrom item fuel) (entriesFrom item' fuel') := by
  rw [entriesFrom_eq, entriesFrom_eq]
  exact separated_stays (fun _ hmost => entry_stays hitem hmost) hmost hlimit hfuel

theorem mapping_stays (hmost : limit ≤ most + 2) :
    Stays all deep Anywhere 2 limit Expr.WellFormed (mapping item) (mapping item') :=
  after_stays <| bound_stays fun _ _ hfew hfuel =>
    .bind (entriesFrom_stays hitem (by omega) (Nat.le_refl _) hfuel) fun _ hentries =>
      .pure (holdExpressions_parts.mpr hentries)

theorem primary_stays (hmost : limit ≤ most + 1) :
    Stays all deep Anywhere 1 limit Expr.WellFormed (primary item) (primary item') := by
  refine current_stays fun token htoken => ?_
  obtain ⟨sort, value, position⟩ := token
  cases sort with
  | number | text | name => exact advance_stays (by simp) (fun _ h => h.2) (.pure trivial)
  | keyword =>
    dsimp only
    split
    · exact advance_stays (by simp) (fun _ h => h.2) (.pure trivial)
    · exact .throw htoken
  | op =>
    refine acceptOp_stays ?_ (.either (fun _ => ?_) fun _ => acceptOp_stays ?_ (.throw htoken))
    · exact .bind (hitem _ (by omega)) fun _ hexpr => after_stays (.pure hexpr)
    · exact ((mapping_stays hitem (by omega)).more 1).anywhere
    · exact bound_stays fun _ _ hfew hfuel =>
        .bind (itemsUntil_stays hitem (by omega) (Nat.le_refl _) hfuel) fun _ hitems =>
          .pure (areExpressions_nodes.mpr hitems)
  | endOfText => exact .throw htoken

theorem stepped_stays (hmost : limit ≤ most + 1) :
    Stays all deep Anywhere 1 limit Expr.WellFormed (stepped item) (stepped item') := by
  refine bound_stays fun fuel fuel' hfew hfuel =>
    .bind (primary_stays hitem (by omega)) fun first hfirst => ?_
  refine .bind (suffixesFrom_stays hitem (by omega) (by omega) hfuel hfirst) fun expr hexpr => ?_
  exact current_stays fun token htoken => acceptFrom_stays
    (fun op _ => updated_stays hexpr _ false htoken) (.pure hexpr)

theorem assigned_stays {target : Expr} (htarget : target.WellFormed) (hmost : limit ≤ most + 1) :
    Stays all deep Anywhere 0 limit Expr.WellFormed
      (do
        let token ← current
        match ← acceptFrom assignOps with
        | none => return target
        | some op => match target.place? with
          | some place => return .assign place op (← item)
          | none => throw (.invalidTarget token.position))
      (do
        let token ← current
        match ← acceptFrom assignOps with
        | none => return target
        | some op => match target.place? with
          | some place => return .assign place op (← item')
          | none => throw (.invalidTarget token.position)) := by
  have hops : ∀ row ∈ assignOps, assignSymbol row.2 ∈ Entries.keys assignOps := by decide
  refine current_stays fun token htoken => acceptFrom_stays (fun row hrow => ?_) (.pure htarget)
  dsimp only
  split
  · next place hplace =>
    cases target with
    | read target =>
      obtain rfl : target = place := Option.some.inj hplace
      exact .bind ((hitem _ (by omega)).more 1 |>.anywhere) fun value hvalue =>
        .pure ⟨target.isTarget_node, hops row hrow, htarget, hvalue⟩
    | _ => cases hplace
  · exact .throw ⟨token, htoken, rfl⟩

end Items

/-- From one token that is taken to the next, an expression is nested at most three levels deeper:
as an expression, a power and an operand. -/
theorem expression_stays (room room' : Nat) (hroom : room ≤ room') :
    (∀ limit, deep ∨ 3 * limit ≤ room →
        Stays all deep Anywhere 1 limit Expr.WellFormed (expression room) (expression room')) ∧
      (∀ limit, deep ∨ 3 * limit ≤ room + 1 →
        Stays all deep Anywhere 1 limit Expr.WellFormed (power room) (power room')) ∧
      ∀ limit, deep ∨ 3 * limit ≤ room + 2 →
        Stays all deep Anywhere 1 limit Expr.WellFormed (operand room) (operand room') := by
  induction room generalizing room' with
  | zero =>
    refine ⟨fun _ h => .tooDeep (h.imp_right ?_), fun _ h => .tooDeep (h.imp_right ?_),
      fun _ h => .tooDeep (h.imp_right ?_)⟩
    all_goals omega
  | succ room ih =>
    obtain ⟨room', rfl⟩ : ∃ more, room' = more + 1 := ⟨room' - 1, by omega⟩
    obtain ⟨hexpression, hpower, hoperand⟩ := ih room' (by omega)
    refine ⟨fun limit hdeep => ?_, fun limit hdeep => ?_, fun limit hdeep => ?_⟩
    · rw [expression, expression]
      have hitem (least : Nat) (hleast : least ≤ limit - 1) :=
        hexpression least (hdeep.imp_right (by omega))
      have hoperand (least : Nat) (hleast : least ≤ limit) :=
        hpower least (hdeep.imp_right (by omega))
      refine .bind (operators_stays hoperand limit (Nat.le_refl _)) fun test htest =>
        acceptOp_stays ?_ (.after_pure (assigned_stays hitem htest (by omega)))
      refine .bind (hitem _ (by omega)) fun yes hyes => after_stays <|
        .bind (hitem _ (by omega)) fun no hno => .after_pure (assigned_stays hitem ?_ (by omega))
      exact ⟨htest, hyes, hno⟩
    · rw [power, power]
      refine .bind (hoperand limit hdeep) fun base hbase => acceptOp_stays ?_ (.pure hbase)
      refine .bind (hpower _ (hdeep.imp_right (by omega))) fun exponent hexponent => .pure ?_
      exact ⟨BinaryOp.symbol_mem .pow, hbase, hexponent⟩
    · rw [operand, operand]
      have hinner := hoperand (limit - 1) (hdeep.imp_right (by omega))
      refine acceptFrom_stays (fun row _ => .bind hinner fun value hvalue => .pure ?_)
        (current_stays fun token htoken => acceptFrom_stays ?_ ?_)
      · exact ⟨row.2.symbol_mem, hvalue⟩
      · exact fun row _ => .bind hinner fun target htarget =>
          updated_stays htarget row.2 true htoken
      · have hitem (least : Nat) (hleast : least ≤ limit - 1) :=
          hexpression least (hdeep.imp_right (by omega))
        exact (stepped_stays hitem (by omega)).anywhere

/-! ## Statements -/

/-- An expression that may be left out. -/
def Optional (value : Option Expr) : Prop :=
  ∀ expr ∈ value.map Expr.node, expr.IsExpression

theorem optional_none : Optional none := by
  simp [Optional]

theorem optional_some {expr : Expr} (h : expr.WellFormed) : Optional (some expr) := by
  rintro _ ⟨⟩
  exact h

theorem declare_wellFormed {declarator : Declarator} {name : String} {value : Option Expr}
    (hconst : declarator = .constName → value.isSome) (hvalue : Optional value) :
    (Stmt.declare declarator name value).WellFormed := by
  refine ⟨declarator.keyword_mem, fun hword => ?_, hvalue⟩
  rw [Option.isSome_map]
  cases declarator with
  | constName => exact hconst rfl
  | letName | varName => exact absurd hword (by decide)

section Items

variable {item item' : Reader Expr} {most : Nat}
  (hitem : ∀ limit ≤ most, Stays all deep Anywhere 1 limit Expr.WellFormed item item')

include hitem

theorem declarationsFrom_stays {declarator : Declarator} {fuel fuel' : Nat} (hmost : limit ≤ most)
    (hlimit : limit ≤ fuel) (hfuel : fuel ≤ fuel') :
    Stays all deep Anywhere 0 limit (fun stmts => ∀ stmt ∈ stmts, stmt.WellFormed)
      (declarationsFrom item declarator fuel) (declarationsFrom item' declarator fuel') := by
  induction fuel generalizing limit fuel' with
  | zero =>
    obtain rfl := Nat.le_zero.mp hlimit
    exact .nothing
  | succ fuel ih =>
    obtain ⟨fuel', rfl⟩ : ∃ more, fuel' = more + 1 := ⟨fuel' - 1, by omega⟩
    have hrest (name : String) (value : Option Expr)
        (hconst : declarator = .constName → value.isSome) (hvalue : Optional value) (limit : Nat)
        (hmost : limit ≤ most) (hlimit : limit ≤ fuel) :
        Stays all deep Anywhere 0 limit (fun stmts => ∀ stmt ∈ stmts, stmt.WellFormed)
          (do
            if ← acceptOp "," then
              return .declare declarator name value :: (← declarationsFrom item declarator fuel)
            else return [.declare declarator name value])
          (do
            if ← acceptOp "," then
              return .declare declarator name value :: (← declarationsFrom item' declarator fuel')
            else return [.declare declarator name value]) := by
      have hfirst : (Stmt.declare declarator name value).WellFormed :=
        declare_wellFormed hconst hvalue
      refine acceptOp_stays (.bind (ih ?_ ?_ ?_) fun rest hrest => .pure ?_) (.pure ?_)
      · omega
      · omega
      · omega
      · exact List.forall_mem_cons.mpr ⟨hfirst, hrest⟩
      · exact List.forall_mem_singleton.mpr hfirst
    rw [declarationsFrom, declarationsFrom]
    refine .bind expectName_stays fun name _ => acceptOp_stays ?_ (.either ?_ fun hconst => ?_)
    · refine .bind (hitem _ (by omega)) fun value hvalue => .after_pure ?_
      exact hrest name _ (fun _ => rfl) (optional_some hvalue) _ (by omega) (by omega)
    · exact fun _ => current_stays fun token htoken => .throw ⟨token, htoken, rfl⟩
    · refine .after_pure ?_
      exact hrest name _ (fun h => absurd h hconst) optional_none _ (by omega) (by omega)

theorem declaration_stays (declarator : Declarator) (hmost : limit ≤ most) :
    Stays all deep Anywhere 0 limit Stmt.WellFormed (declaration item declarator)
      (declaration item' declarator) := by
  refine bound_stays fun fuel fuel' hfew hfuel =>
    .bind (declarationsFrom_stays hitem (by omega) (Nat.le_refl _) hfuel) fun stmts hstmts => ?_
  split
  · exact .pure (hstmts _ (List.mem_singleton_self _))
  · exact .pure (areStatements_nodes.mpr hstmts)

theorem parenthesized_stays (hmost : limit ≤ most) :
    Stays all deep Anywhere 1 limit Expr.WellFormed (parenthesized item) (parenthesized item') :=
  after_stays <| .bind (hitem _ (by omega)) fun _ hexpr => after_stays (.pure hexpr)

theorem optionalUntil_stays (close : String) (hmost : limit ≤ most) :
    Stays all deep Anywhere 0 limit Optional (optionalUntil item close)
      (optionalUntil item' close) :=
  atOp_stays fun _ => .either (fun _ => .pure optional_none) fun _ =>
    .bind (hitem _ hmost) fun _ hexpr => .pure (optional_some hexpr)

theorem loopStart_stays (hmost : limit ≤ most) :
    Stays all deep Anywhere 0 limit (fun stmt => Node.MayBeStatement (Stmt.optionNode stmt))
      (loopStart item) (loopStart item') :=
  atOp_stays fun _ => .either (fun _ => .pure trivial) fun _ => acceptDeclarator_stays
    (fun declarator => .bind (declaration_stays hitem declarator (by omega)) fun _ hstmt =>
      .pure hstmt)
    (.bind (hitem _ hmost) fun _ hexpr => .pure hexpr)

theorem returned_stays (hmost : limit ≤ most) :
    Stays all deep Anywhere 0 limit Optional (returned item) (returned item') :=
  current_stays fun _ _ => .either (fun _ => .pure optional_none) fun _ =>
    .bind (hitem _ hmost).anywhere fun _ hexpr => .pure (optional_some hexpr)

end Items

theorem endStatement_stays : Stays all deep Anywhere 0 limit Any endStatement endStatement :=
  accept_stays (by decide) (.pure trivial) (.pure trivial)

section Statements

variable {inner inner' : Reader Stmt} {most : Nat}
  (hinner : ∀ limit ≤ most, Stays all deep Anywhere 1 limit Stmt.WellFormed inner inner')

include hinner

theorem statementsFrom_stays {fuel fuel' : Nat} (hmost : limit ≤ most) (hlimit : limit ≤ fuel)
    (hfuel : fuel ≤ fuel') :
    Stays all deep Anywhere 0 limit (fun stmts => ∀ stmt ∈ stmts, stmt.WellFormed)
      (statementsFrom inner fuel) (statementsFrom inner' fuel') := by
  induction fuel generalizing limit fuel' with
  | zero =>
    obtain rfl := Nat.le_zero.mp hlimit
    exact .nothing
  | succ fuel ih =>
    obtain ⟨fuel', rfl⟩ : ∃ more, fuel' = more + 1 := ⟨fuel' - 1, by omega⟩
    refine acceptOp_stays (.pure (by simp)) <| current_stays fun token htoken =>
      .either (fun _ => .throw ⟨token, htoken, rfl⟩) fun _ => ?_
    refine .bind (hinner _ hmost).anywhere fun first hfirst =>
      .bind (ih (by omega) (by omega) (by omega)) fun rest hrest => .pure ?_
    exact List.forall_mem_cons.mpr ⟨hfirst, hrest⟩

theorem blockBody_stays (hmost : limit ≤ most + 1) :
    Stays all deep Anywhere 1 limit (fun stmts => ∀ stmt ∈ stmts, stmt.WellFormed)
      (blockBody inner) (blockBody inner') :=
  after_stays <| bound_stays fun _ _ hfew hfuel =>
    statementsFrom_stays hinner (by omega) (Nat.le_refl _) hfuel

end Statements

/-- A statement needs one level more than the expressions in it, and one for each word or brace that
it is nested in. -/
theorem statement_stays (room room' : Nat) (hroom : room ≤ room') (limit : Nat)
    (hdeep : deep ∨ 3 * limit < room) :
    Stays all deep Anywhere 1 limit Stmt.WellFormed (statement room) (statement room') := by
  induction room generalizing room' limit with
  | zero => exact .tooDeep (hdeep.imp_right (by omega))
  | succ room ih =>
    obtain ⟨room', rfl⟩ : ∃ more, room' = more + 1 := ⟨room' - 1, by omega⟩
    obtain rfl | hlimit := Nat.eq_zero_or_pos limit
    · exact .nothing
    have hitem (least : Nat) (hleast : least ≤ limit) :
        Stays all deep Anywhere 1 least Expr.WellFormed (expression room) (expression room') :=
      (expression_stays room room' (by omega)).1 least (hdeep.imp_right (by omega))
    have hinner (least : Nat) (hleast : least ≤ limit - 1) :
        Stays all deep Anywhere 1 least Stmt.WellFormed (statement room) (statement room') :=
      ih room' (by omega) least (hdeep.imp_right (by omega))
    rw [statement, statement]
    refine atOp_stays fun _ => .either (fun _ => ?_) fun _ => ?_
    · exact .bind (blockBody_stays hinner (by omega)) fun _ hbody =>
        .pure (areStatements_nodes.mpr hbody)
    refine acceptOp_stays (.pure trivial) (acceptDeclarator_stays (fun declarator => ?_) ?_)
    · exact .bind (declaration_stays hitem declarator (by omega)) fun _ hstmt =>
        .bind endStatement_stays fun _ _ => .pure hstmt
    refine keyword_stays ?_ (keyword_stays ?_ (keyword_stays ?_ (keyword_stays ?_ ?_)))
    · refine .bind (parenthesized_stays hitem (by omega)) fun test htest =>
        .bind (hinner _ (by omega)) fun yes hyes => keyword_stays ?_ (.pure ?_)
      · exact .bind (hinner _ (by omega)) fun no hno => .pure ⟨htest, hyes, hno⟩
      · exact ⟨htest, hyes, trivial⟩
    · exact .bind (parenthesized_stays hitem (by omega)) fun test htest =>
        .bind (hinner _ (by omega)) fun body hbody => .pure ⟨htest, hbody⟩
    · exact after_stays <| .bind (loopStart_stays hitem (by omega)) fun start hstart =>
        after_stays <| .bind (optionalUntil_stays hitem _ (by omega)) fun test htest =>
        after_stays <| .bind (optionalUntil_stays hitem _ (by omega)) fun next hnext =>
        after_stays <| .bind (hinner _ (by omega)) fun body hbody =>
        .pure ⟨hstart, htest, hnext, hbody⟩
    · exact .bind (returned_stays hitem (by omega)) fun _ hvalue =>
        .bind endStatement_stays fun _ _ => .pure hvalue
    · exact .bind (hitem _ (by omega)) fun _ hexpr =>
        .bind endStatement_stays fun _ _ => .pure hexpr

end Reader

end Canvasflow.Program
