import Canvasflow.Proofs.Program.Lexemes
import Mathlib.Data.List.Forall2

/-!
# Readers do not see where tokens stand, nor what follows

A reader that succeeds has looked at no more than the tokens that it took and the one after them,
and at their kinds and texts only. So it gives the same on tokens that mean the same, whatever else
comes after them. `Follows` states this of two readers that start on such tokens, with what each
reader takes and looks at counted, so that it goes through sequences and through the loops, which
are bounded by the number of tokens that are left.
-/

namespace Canvasflow.Program

/-- Tokens that mean the same, wherever they stand. -/
def Token.Alike (token other : Token) : Prop :=
  token.lexeme = other.lexeme

theorem alike_of_map {tokens others : List Token}
    (h : tokens.map Token.lexeme = others.map Token.lexeme) :
    List.Forall₂ Token.Alike tokens others := by
  rwa [← List.forall₂_eq_eq_eq, List.forall₂_map_left_iff, List.forall₂_map_right_iff] at h

/-- Any tokens. -/
def Anywhere (_ : List Token) : Prop := True

/-- Tokens of which this one is the first. -/
def Before (token : Token) (tokens : List Token) : Prop :=
  tokens.head?.getD ⟨.endOfText, "", .start⟩ = token

/-- The second reader does as the first, where the first is on fewer than `limit` tokens that
satisfy `start`. When the first succeeds, it has taken at least `taken` tokens, and not the end of
the text. If at least `ahead` tokens are left of those that mean the same to both readers, or if
both see all that there is, then the second gives the same and leaves as much. -/
structure Follows {α : Type} (start : List Token → Prop) (ahead taken limit : Nat)
    (first second : Reader α) : Prop where
  takes (tokens : List Token) {rest : List Token} {a : α} (hstart : start tokens)
    (hlimit : tokens.length < limit) (hrun : first.run tokens = .ok (a, rest)) :
    ∃ used, tokens = used ++ rest ∧ taken ≤ used.length ∧
      ∀ token ∈ used, token.kind ≠ .endOfText
  follows {tokens others left tail tail' : List Token} {a : α} (hstart : start (tokens ++ tail))
    (hlimit : (tokens ++ tail).length < limit) (halike : List.Forall₂ Token.Alike tokens others)
    (htail : tail.length ≤ tail'.length)
    (hahead : ahead ≤ left.length ∨ tail = [] ∧ tail' = [])
    (hrun : first.run (tokens ++ tail) = .ok (a, left ++ tail)) :
    ∃ left', List.Forall₂ Token.Alike left left' ∧
      second.run (others ++ tail') = .ok (a, left' ++ tail')

namespace Follows

variable {α β : Type} {start : List Token → Prop} {ahead taken limit : Nat}
  {first second : Reader α}

theorem pure (a : α) : Follows start ahead 0 limit (pure a) (pure a) where
  takes _ _ _ _ _ hrun := by
    cases hrun
    exact ⟨[], rfl, Nat.le_refl _, by simp⟩
  follows {tokens others left tail tail' _} _ _ halike _ _ hrun := by
    obtain ⟨rfl, hleft⟩ := Prod.mk.inj (Except.ok.inj hrun)
    obtain rfl := List.append_cancel_right hleft
    exact ⟨others, halike, rfl⟩

theorem throw (fault : SyntaxFault) :
    Follows start ahead taken limit (throw fault : Reader α) second where
  takes _ _ _ _ _ hrun := nomatch hrun
  follows _ _ _ _ _ hrun := nomatch hrun

/-- On no tokens at all there is nothing to show. -/
theorem nothing : Follows start ahead taken 0 first second where
  takes _ _ _ _ hlimit := absurd hlimit (Nat.not_lt_zero _)
  follows _ hlimit := absurd hlimit (Nat.not_lt_zero _)

theorem narrow {start' : List Token → Prop} (h : Follows start ahead taken limit first second)
    (hstart : ∀ tokens, start' tokens → start tokens) :
    Follows start' ahead taken limit first second where
  takes tokens _ _ hstart' := h.takes tokens (hstart _ hstart')
  follows hstart' := h.follows (hstart _ hstart')

theorem anywhere (h : Follows Anywhere ahead taken limit first second) :
    Follows start ahead taken limit first second :=
  h.narrow fun _ _ => trivial

/-- A reader that takes more tokens than it has to. -/
theorem more (n : Nat) (h : Follows start ahead (taken + n) limit first second) :
    Follows start ahead taken limit first second where
  takes tokens _ _ hstart hlimit hrun := by
    obtain ⟨used, hused, hlength, hkinds⟩ := h.takes tokens hstart hlimit hrun
    exact ⟨used, hused, Nat.le_trans (Nat.le_add_right taken n) hlength, hkinds⟩
  follows := h.follows

/-- A reader that looks at nothing after what it takes. -/
theorem blind (h : Follows start 0 taken limit first second) :
    Follows start ahead taken limit first second where
  takes := h.takes
  follows hstart hlimit halike htail hahead hrun :=
    h.follows hstart hlimit halike htail (hahead.imp_left fun _ => Nat.zero_le _) hrun

/-- What the first part looks at has to be among what the second part takes or looks at. -/
theorem bind_of_le {ahead' taken' : Nat} {rest rest' : α → Reader β}
    (hahead : ahead' ≤ ahead + (taken - taken'))
    (hfirst : Follows start ahead' taken' limit first second)
    (hrest : ∀ a, Follows Anywhere ahead (taken - taken') (limit - taken') (rest a) (rest' a)) :
    Follows start ahead taken limit (first >>= rest) (second >>= rest') where
  takes tokens _ _ hstart hlimit hrun := by
    rw [StateT.run_bind] at hrun
    obtain ⟨⟨a, left⟩, hrun₁, hrun₂⟩ := bind_eq_ok_iff.mp hrun
    dsimp only at hrun₂
    obtain ⟨used, rfl, hlength, hkinds⟩ := hfirst.takes _ hstart hlimit hrun₁
    rw [List.length_append] at hlimit
    obtain ⟨used', rfl, hlength', hkinds'⟩ := (hrest a).takes _ trivial (by omega) hrun₂
    refine ⟨used ++ used', by rw [List.append_assoc], by rw [List.length_append]; omega, ?_⟩
    exact List.forall_mem_append.mpr ⟨hkinds, hkinds'⟩
  follows {tokens others left tail tail' b} hstart hlimit halike htail hahead' hrun := by
    rw [StateT.run_bind] at hrun
    obtain ⟨⟨a, middle⟩, hrun₁, hrun₂⟩ := bind_eq_ok_iff.mp hrun
    dsimp only at hrun₂
    obtain ⟨used, hused, hlength, -⟩ := hfirst.takes _ hstart hlimit hrun₁
    have hcount := congrArg List.length hused
    simp only [List.length_append] at hcount hlimit
    -- what is left after the first part ends in what is left at last
    obtain ⟨used', hused', hlength', -⟩ := (hrest a).takes _ trivial (by omega) hrun₂
    rw [← List.append_assoc] at hused'
    subst hused'
    simp only [List.length_append] at hcount
    obtain ⟨middle', hmiddle', hrun₁'⟩ := hfirst.follows hstart (by simpa using hlimit)
      halike htail (hahead'.imp_left fun h => by rw [List.length_append]; omega) hrun₁
    obtain ⟨left', hleft', hrun₂'⟩ := (hrest a).follows trivial
      (by simp only [List.length_append]; omega) hmiddle' htail hahead' hrun₂
    refine ⟨left', hleft', ?_⟩
    rw [StateT.run_bind]
    exact bind_eq_ok_iff.mpr ⟨_, hrun₁', hrun₂'⟩

theorem bind {taken' : Nat} {rest rest' : α → Reader β}
    (hfirst : Follows start ahead taken' limit first second)
    (hrest : ∀ a, Follows Anywhere ahead (taken - taken') (limit - taken') (rest a) (rest' a)) :
    Follows start ahead taken limit (first >>= rest) (second >>= rest') :=
  bind_of_le (Nat.le_add_right _ _) hfirst hrest

/-- Alternatives that are chosen alike. -/
theorem either {c : Prop} [Decidable c] {other other' : Reader α}
    (h : c → Follows start ahead taken limit first second)
    (hother : ¬ c → Follows start ahead taken limit other other') :
    Follows start ahead taken limit (if c then first else other)
      (if c then second else other') := by
  split_ifs with hc
  exacts [h hc, hother hc]

end Follows

namespace Reader

variable {α β : Type} {start : List Token → Prop} {ahead taken limit : Nat}

/-! ## Single tokens -/

/-- The first of some tokens and of others that mean the same. -/
theorem head?_alike {tokens others tail tail' : List Token}
    (halike : List.Forall₂ Token.Alike tokens others)
    (hahead : 1 ≤ tokens.length ∨ tail = [] ∧ tail' = []) :
    Token.Alike ((tokens ++ tail).head?.getD ⟨.endOfText, "", .start⟩)
      ((others ++ tail').head?.getD ⟨.endOfText, "", .start⟩) := by
  cases halike with
  | cons h _ => exact h
  | nil =>
    obtain hahead | ⟨rfl, rfl⟩ := hahead
    · exact absurd hahead (by decide)
    · rfl

/-- What is read after a look at the first token, which has to be among what is taken or looked at.
-/
theorem current_follows_of_le (hahead : 1 ≤ ahead + taken) {rest rest' : Token → Reader β}
    (hrest : ∀ kind value position position',
      Follows (fun tokens => start tokens ∧ Before ⟨kind, value, position⟩ tokens) ahead taken limit
        (rest ⟨kind, value, position⟩) (rest' ⟨kind, value, position'⟩)) :
    Follows start ahead taken limit (current >>= rest) (current >>= rest') := by
  have hrest {token other : Token} (h : token.Alike other) :
      Follows (fun tokens => start tokens ∧ Before token tokens) ahead taken limit (rest token)
        (rest' other) := by
    obtain ⟨hkind, hvalue⟩ := Prod.mk.inj h
    obtain ⟨kind, value, position⟩ := token
    obtain ⟨kind', value', position'⟩ := other
    obtain rfl : kind = kind' := hkind
    obtain rfl : value = value' := hvalue
    exact hrest kind value position position'
  refine ⟨fun tokens _ _ hstart hlimit hrun => ?_, ?_⟩
  · exact (hrest rfl).takes tokens ⟨hstart, rfl⟩ hlimit hrun
  · intro tokens others left tail tail' b hstart hlimit halike htail hahead' hrun
    obtain ⟨used, hused, htaken, -⟩ := (hrest rfl).takes (tokens ++ tail) ⟨hstart, rfl⟩ hlimit hrun
    have hcount := congrArg List.length hused
    simp only [List.length_append] at hcount
    exact (hrest (head?_alike halike (hahead'.imp_left fun h => by omega))).follows ⟨hstart, rfl⟩
      hlimit halike htail hahead' hrun

/-- What is read after the first token is taken, which is not the end of the text. -/
theorem advance_follows {token : Token} (htoken : token.kind ≠ .endOfText)
    (hstart : ∀ tokens, start tokens → Before token tokens) {rest rest' : Unit → Reader β}
    (hrest : Follows Anywhere ahead (taken - 1) (limit - 1) (rest ()) (rest' ())) :
    Follows start ahead taken limit (advance >>= rest) (advance >>= rest') := by
  have hcons {tokens : List Token} (h : start tokens) : ∃ others, tokens = token :: others := by
    cases tokens with
    | nil => exact absurd (congrArg Token.kind (hstart _ h)).symm htoken
    | cons first others => exact ⟨others, congrArg (· :: others) (hstart _ h)⟩
  refine ⟨fun tokens _ _ hstart hlimit hrun => ?_, ?_⟩
  · obtain ⟨others, rfl⟩ := hcons hstart
    obtain ⟨used, rfl, hlength, hkinds⟩ := hrest.takes others trivial
      (by simp only [List.length_cons] at hlimit; omega) hrun
    exact ⟨token :: used, rfl, by simp only [List.length_cons]; omega,
      List.forall_mem_cons.mpr ⟨htoken, hkinds⟩⟩
  · intro tokens others left tail tail' b hstart hlimit halike htail hahead hrun
    cases halike with
    | nil =>
      -- what comes after the tokens would be taken, and is left
      obtain ⟨others, rfl⟩ := hcons hstart
      obtain ⟨used, hused, -⟩ := hrest.takes others trivial
        (by simp only [List.nil_append, List.length_cons] at hlimit; omega) hrun
      have hcount := congrArg List.length hused
      simp only [List.length_append, List.length_cons] at hcount
      omega
    | cons _ halike =>
      refine hrest.follows trivial ?_ halike htail hahead hrun
      simp only [List.length_append, List.length_cons] at hlimit ⊢
      omega

theorem accept_bind (kind : TokenKind) (value : String) (next : Bool → Reader β) :
    accept kind value >>= next =
      current >>= fun token =>
        if isToken kind value token then advance >>= fun _ => next true else next false := by
  unfold accept
  rw [bind_assoc]
  congr
  funext token
  split <;> rfl

/-- What is read after a token that may be taken. -/
theorem accept_follows_of_le (hahead : 1 ≤ ahead + taken) {kind : TokenKind}
    (hkind : kind ≠ .endOfText) {value : String} {rest rest' : Bool → Reader β}
    (htaken : Follows Anywhere ahead (taken - 1) (limit - 1) (rest true) (rest' true))
    (hleft : Follows start ahead taken limit (rest false) (rest' false)) :
    Follows start ahead taken limit (accept kind value >>= rest) (accept kind value >>= rest') := by
  rw [accept_bind, accept_bind]
  refine current_follows_of_le hahead fun found text _ _ => .either (fun htoken => ?_) fun _ => ?_
  · refine advance_follows ?_ (fun _ h => h.2) htaken
    simp only [isToken, Bool.and_eq_true, beq_iff_eq] at htoken
    exact htoken.1 ▸ hkind
  · exact hleft.narrow fun _ h => h.1

/-- What is read after a look at the first token for an operator. -/
theorem atOp_follows_of_le (hahead : 1 ≤ ahead + taken) {op : String} {rest rest' : Bool → Reader β}
    (hrest : ∀ found, Follows start ahead taken limit (rest found) (rest' found)) :
    Follows start ahead taken limit (atOp op >>= rest) (atOp op >>= rest') := by
  unfold atOp
  rw [bind_assoc, bind_assoc]
  exact current_follows_of_le hahead fun _ _ _ _ => (hrest _).narrow fun _ h => h.1

section Ahead

variable {rest rest' : Token → Reader β} {yes yes' no no' : Reader β}

/-- What is read after a look at the first token. -/
theorem current_follows (hrest : ∀ kind value position position',
      Follows (fun tokens => start tokens ∧ Before ⟨kind, value, position⟩ tokens) 1 taken limit
        (rest ⟨kind, value, position⟩) (rest' ⟨kind, value, position'⟩)) :
    Follows start 1 taken limit (current >>= rest) (current >>= rest') :=
  current_follows_of_le (Nat.le_add_right _ _) hrest

/-- What is read if an operator can be taken, and if it cannot. -/
theorem acceptOp_follows {op : String}
    (hyes : Follows Anywhere 1 (taken - 1) (limit - 1) yes yes')
    (hno : Follows start 1 taken limit no no') :
    Follows start 1 taken limit (acceptOp op >>= fun found => if found = true then yes else no)
      (acceptOp op >>= fun found => if found = true then yes' else no') :=
  accept_follows_of_le (Nat.le_add_right _ _) (by decide) (by simpa using hyes) (by simpa using hno)

/-- What is read if a keyword can be taken, and if it cannot. -/
theorem keyword_follows {word : String}
    (hyes : Follows Anywhere 1 (taken - 1) (limit - 1) yes yes')
    (hno : Follows start 1 taken limit no no') :
    Follows start 1 taken limit
      (accept .keyword word >>= fun found => if found = true then yes else no)
      (accept .keyword word >>= fun found => if found = true then yes' else no') :=
  accept_follows_of_le (Nat.le_add_right _ _) (by decide) (by simpa using hyes) (by simpa using hno)

/-- What is read if an operator stands first, and if it does not. -/
theorem atOp_follows {op : String} (hyes : Follows start 1 taken limit yes yes')
    (hno : Follows start 1 taken limit no no') :
    Follows start 1 taken limit (atOp op >>= fun found => if found = true then yes else no)
      (atOp op >>= fun found => if found = true then yes' else no') :=
  atOp_follows_of_le (Nat.le_add_right _ _) fun _ => .either (fun _ => hyes) fun _ => hno

end Ahead

theorem expectOp_follows {op : String} : Follows start 0 1 limit (expectOp op) (expectOp op) := by
  refine current_follows_of_le (Nat.le_refl _) fun kind value _ _ =>
    .either (fun htoken => ?_) fun _ => .throw _
  simp only [isToken, Bool.and_eq_true, beq_iff_eq] at htoken
  rw [← bind_pure_unit (x := advance)]
  exact advance_follows (by simp [htoken.1]) (fun _ h => h.2) (.pure ())

theorem expectName_follows : Follows start 0 1 limit expectName expectName :=
  current_follows_of_le (Nat.le_refl _) fun kind value _ _ => .either
    (fun htoken => advance_follows (by simp_all) (fun _ h => h.2) (.pure _)) fun _ => .throw _

theorem memberName_follows : Follows start 0 1 limit memberName memberName :=
  current_follows_of_le (Nat.le_refl _) fun kind value _ _ => .either
    (fun htoken => advance_follows (by rintro rfl; simp at htoken) (fun _ h => h.2) (.pure _))
    fun _ => .throw _

/-- What is read after an operator that has to be the first token. -/
theorem after_follows {op : String} {rest rest' : Unit → Reader β}
    (hrest : Follows Anywhere ahead (taken - 1) (limit - 1) (rest ()) (rest' ())) :
    Follows start ahead taken limit (expectOp op >>= rest) (expectOp op >>= rest') :=
  .bind expectOp_follows.blind fun _ => hrest

/-- The row of a table for the first token, if it is of the kind and the table has it; the token is
taken. -/
def acceptRow (kind : TokenKind) (table : List (String × α)) : Reader (Option α) := do
  let token ← current
  if token.kind = kind then
    match Entries.find? token.value table with
    | some row =>
      advance
      return some row
    | none => return none
  else return none

theorem acceptRow_bind (kind : TokenKind) (table : List (String × α)) (next : Option α → Reader β) :
    acceptRow kind table >>= next =
      current >>= fun token =>
        if token.kind = kind then
          match Entries.find? token.value table with
          | some row => advance >>= fun _ => next (some row)
          | none => next none
        else next none := by
  unfold acceptRow
  rw [bind_assoc]
  congr
  funext token
  split
  · cases Entries.find? token.value table <;> rfl
  · rfl

theorem acceptDeclarator_eq : acceptDeclarator = acceptRow .keyword declarators := by
  unfold acceptDeclarator acceptRow
  congr
  funext token
  split
  · cases Entries.find? token.value declarators <;> rfl
  · rfl

/-- What is read after a row of a table that may be taken. -/
theorem acceptRow_follows {kind : TokenKind} (hkind : kind ≠ .endOfText)
    {table : List (String × α)} {rest rest' : Option α → Reader β}
    (htaken : ∀ row,
      Follows Anywhere 1 (taken - 1) (limit - 1) (rest (some row)) (rest' (some row)))
    (hleft : Follows start 1 taken limit (rest none) (rest' none)) :
    Follows start 1 taken limit (acceptRow kind table >>= rest)
      (acceptRow kind table >>= rest') := by
  rw [acceptRow_bind, acceptRow_bind]
  refine current_follows fun found value _ _ => .either (fun hfound => ?_) fun _ => ?_
  · dsimp only at hfound ⊢
    split
    · exact advance_follows (hfound ▸ hkind) (fun _ h => h.2) (htaken _)
    · exact hleft.narrow fun _ h => h.1
  · exact hleft.narrow fun _ h => h.1

/-- What is read after an operator of a table that may be taken. -/
theorem acceptFrom_follows {table : List (String × α)} {rest rest' : Option α → Reader β}
    (htaken : ∀ op, Follows Anywhere 1 (taken - 1) (limit - 1) (rest (some op)) (rest' (some op)))
    (hleft : Follows start 1 taken limit (rest none) (rest' none)) :
    Follows start 1 taken limit (acceptFrom table >>= rest) (acceptFrom table >>= rest') :=
  acceptRow_follows (by decide) htaken hleft

/-- What is read after a declaring word that may be taken. -/
theorem acceptDeclarator_follows {rest rest' : Option Declarator → Reader β}
    (htaken : ∀ declarator,
      Follows Anywhere 1 (taken - 1) (limit - 1) (rest (some declarator)) (rest' (some declarator)))
    (hleft : Follows start 1 taken limit (rest none) (rest' none)) :
    Follows start 1 taken limit (acceptDeclarator >>= rest) (acceptDeclarator >>= rest') := by
  rw [acceptDeclarator_eq]
  exact acceptRow_follows (by decide) htaken hleft

theorem expectEnd_follows : Follows start 1 0 limit expectEnd expectEnd :=
  current_follows fun _ _ _ _ => .either (fun _ => .throw _) fun _ => .pure ()

/-- What is read with a bound for the tokens that are left. -/
theorem bound_follows {rest rest' : Nat → Reader β}
    (hrest : ∀ fuel fuel', fuel ≤ fuel' →
      Follows start ahead taken fuel (rest fuel) (rest' fuel')) :
    Follows start ahead taken limit (bound >>= rest) (bound >>= rest') where
  takes tokens _ _ hstart _ hrun :=
    (hrest _ _ (Nat.le_refl _)).takes tokens hstart (Nat.lt_succ_self _) hrun
  follows hstart hlimit halike htail hahead hrun :=
    (hrest _ _ (by simp only [List.length_append, halike.length_eq]; omega)).follows hstart
      (Nat.lt_succ_self _) halike htail hahead hrun

/-! ## Lists -/

/-- Parts with commas between them, up to an operator that closes their list. -/
def separated (part : Reader α) (close : String) : Nat → Reader (List α)
  | 0 => pure []
  | fuel + 1 => do
    if ← acceptOp close then return []
    let first ← part
    if !(← atOp close) then expectOp ","
    return first :: (← separated part close fuel)

theorem itemsUntil_eq (item : Reader Expr) (close : String) (fuel : Nat) :
    itemsUntil item close fuel = separated item close fuel := by
  induction fuel with
  | zero => rfl
  | succ fuel ih => rw [itemsUntil, separated, ih]

theorem entriesFrom_eq (item : Reader Expr) (fuel : Nat) :
    entriesFrom item fuel = separated (entry item) "\x7d" fuel := by
  induction fuel with
  | zero => rfl
  | succ fuel ih => rw [entriesFrom, separated, ih]

/-- A list ends with an operator that is taken, so nothing after it is looked at. -/
theorem separated_follows {part : Reader α} {close : String} {fuel fuel' : Nat}
    (hpart : ∀ limit, Follows Anywhere 1 1 limit part part) (hlimit : limit ≤ fuel)
    (hfuel : fuel ≤ fuel') :
    Follows Anywhere 0 1 limit (separated part close fuel) (separated part close fuel') := by
  induction fuel generalizing limit fuel' with
  | zero =>
    obtain rfl := Nat.le_zero.mp hlimit
    exact .nothing
  | succ fuel ih =>
    obtain ⟨fuel', rfl⟩ : ∃ more, fuel' = more + 1 := ⟨fuel' - 1, by omega⟩
    have hrest (first : α) (limit : Nat) (hlimit : limit ≤ fuel) :
        Follows Anywhere 0 1 limit (do return first :: (← separated part close fuel))
          (do return first :: (← separated part close fuel')) :=
      .bind (ih hlimit (by omega)) fun _ => .pure _
    refine accept_follows_of_le (Nat.le_refl _) (by decide) (.pure []) (.more 1 ?_)
    refine .bind_of_le ?_ (hpart _) fun first => ?_
    · exact Nat.le_refl 1
    exact atOp_follows_of_le (Nat.le_refl _) fun last => .either
      (fun _ => .more 1 (after_follows (hrest first _ (by omega))))
      fun _ => hrest first _ (by omega)

/-! ## Expressions -/

section Items

variable {item : Reader Expr} (hitem : ∀ limit, Follows Anywhere 1 1 limit item item)

include hitem

theorem chainFrom_follows {table : List (String × α)} {join : Expr → α → Expr → Expr}
    {fuel fuel' : Nat} (hlimit : limit ≤ fuel) (hfuel : fuel ≤ fuel') (left : Expr) :
    Follows Anywhere 1 0 limit (chainFrom item table join fuel left)
      (chainFrom item table join fuel' left) := by
  induction fuel generalizing limit fuel' left with
  | zero =>
    obtain rfl := Nat.le_zero.mp hlimit
    exact .nothing
  | succ fuel ih =>
    obtain ⟨fuel', rfl⟩ : ∃ more, fuel' = more + 1 := ⟨fuel' - 1, by omega⟩
    exact acceptFrom_follows (fun op => .bind (hitem _) fun right => ih (by omega) (by omega) _)
      (.pure left)

theorem chain_follows {table : List (String × α)} {join : Expr → α → Expr → Expr} (limit : Nat) :
    Follows Anywhere 1 1 limit (chain item table join) (chain item table join) :=
  .bind (hitem limit) fun left => bound_follows fun _ _ hfuel =>
    chainFrom_follows hitem (Nat.le_refl _) hfuel left

theorem operators_follows (limit : Nat) :
    Follows Anywhere 1 1 limit (operators item) (operators item) :=
  chain_follows (chain_follows (chain_follows (chain_follows (chain_follows (chain_follows
    (chain_follows hitem)))))) limit

theorem itemsUntil_follows {close : String} {fuel fuel' : Nat} (hlimit : limit ≤ fuel)
    (hfuel : fuel ≤ fuel') :
    Follows Anywhere 1 0 limit (itemsUntil item close fuel) (itemsUntil item close fuel') := by
  rw [itemsUntil_eq, itemsUntil_eq]
  exact ((separated_follows hitem hlimit hfuel).more 1).blind

theorem arguments_follows (limit : Nat) :
    Follows Anywhere 1 0 limit (arguments item) (arguments item) :=
  bound_follows fun _ _ hfuel => itemsUntil_follows hitem (Nat.le_refl _) hfuel

theorem bracketIndex_follows (limit : Nat) :
    Follows Anywhere 1 1 limit (bracketIndex item) (bracketIndex item) :=
  .bind (hitem limit) fun index => after_follows (.pure index)

theorem suffixesFrom_follows {fuel fuel' : Nat} (hlimit : limit ≤ fuel) (hfuel : fuel ≤ fuel')
    (expr : Expr) :
    Follows Anywhere 1 0 limit (suffixesFrom item fuel expr) (suffixesFrom item fuel' expr) := by
  induction fuel generalizing limit fuel' expr with
  | zero =>
    obtain rfl := Nat.le_zero.mp hlimit
    exact .nothing
  | succ fuel ih =>
    obtain ⟨fuel', rfl⟩ : ∃ more, fuel' = more + 1 := ⟨fuel' - 1, by omega⟩
    have hmember (optional : Bool) (limit : Nat) (hlimit : limit ≤ fuel) :
        Follows Anywhere 1 0 limit
          (do suffixesFrom item fuel (.read (.member expr (← memberName) optional)))
          (do suffixesFrom item fuel' (.read (.member expr (← memberName) optional))) :=
      .bind memberName_follows.blind fun name => ih (by omega) (by omega) _
    have hindex (optional : Bool) (limit : Nat) (hlimit : limit ≤ fuel) :
        Follows Anywhere 1 0 limit
          (do suffixesFrom item fuel (.read (.index expr (← bracketIndex item) optional)))
          (do suffixesFrom item fuel' (.read (.index expr (← bracketIndex item) optional))) :=
      .bind (bracketIndex_follows hitem _) fun index => ih (by omega) (by omega) _
    refine acceptOp_follows (hmember false _ (by omega)) (acceptOp_follows ?_ ?_)
    · exact acceptOp_follows (hindex true _ (by omega)) (hmember true _ (by omega))
    · refine acceptOp_follows (hindex false _ (by omega)) (acceptOp_follows ?_ (.pure expr))
      exact .bind (arguments_follows hitem _) fun args => ih (by omega) (by omega) _

theorem entry_follows (limit : Nat) : Follows Anywhere 1 1 limit (entry item) (entry item) := by
  refine current_follows fun kind value _ _ => acceptOp_follows ?_
    (.either (fun hkey => ?_) fun _ => .throw _)
  · exact .bind (hitem _) fun expr => .pure _
  · refine advance_follows (by rintro rfl; cases hkey) (fun _ h => h.2) ?_
    refine acceptOp_follows ?_ (.either (fun _ => .pure _) fun _ => .throw _)
    exact .bind (hitem _) fun expr => .pure _

theorem entriesFrom_follows {fuel fuel' : Nat} (hlimit : limit ≤ fuel) (hfuel : fuel ≤ fuel') :
    Follows Anywhere 0 1 limit (entriesFrom item fuel) (entriesFrom item fuel') := by
  rw [entriesFrom_eq, entriesFrom_eq]
  exact separated_follows (entry_follows hitem) hlimit hfuel

theorem mapping_follows (limit : Nat) :
    Follows Anywhere 0 2 limit (mapping item) (mapping item) :=
  after_follows <| bound_follows fun _ _ hfuel =>
    .bind (entriesFrom_follows hitem (Nat.le_refl _) hfuel) fun _ => .pure _

theorem primary_follows (limit : Nat) :
    Follows Anywhere 1 1 limit (primary item) (primary item) := by
  refine current_follows fun kind value _ _ => ?_
  cases kind with
  | number | text | name => exact advance_follows (by simp) (fun _ h => h.2) (.pure _)
  | keyword =>
    dsimp only
    split
    · exact advance_follows (by simp) (fun _ h => h.2) (.pure _)
    · exact .throw _
  | op =>
    refine acceptOp_follows ?_ (.either (fun _ => ?_) fun _ => acceptOp_follows ?_ (.throw _))
    · exact .bind (hitem _) fun expr => after_follows (.pure _)
    · exact ((mapping_follows hitem limit).more 1).blind.anywhere
    · exact bound_follows fun _ _ hfuel =>
        .bind (itemsUntil_follows hitem (Nat.le_refl _) hfuel) fun items => .pure _
  | endOfText => exact .throw _

theorem stepped_follows (limit : Nat) :
    Follows Anywhere 1 1 limit (stepped item) (stepped item) := by
  refine bound_follows fun fuel fuel' hfuel => .bind (primary_follows hitem _) fun first => ?_
  refine .bind (suffixesFrom_follows hitem (by omega) hfuel first) fun expr => ?_
  refine current_follows fun _ _ _ _ => acceptFrom_follows (fun op => ?_) (.pure expr)
  dsimp only
  split
  · exact .pure _
  · exact .throw _

theorem assigned_follows (target : Expr) (limit : Nat) :
    Follows Anywhere 1 0 limit
      (do
        let token ← current
        match ← acceptFrom assignOps with
        | none => return target
        | some op => match target.place? with
          | some place => return .assign place op (← item)
          | none => throw (.invalidTarget token.position))
      (do
        let token ← current
        match ← acceptFrom assignOps with
        | none => return target
        | some op => match target.place? with
          | some place => return .assign place op (← item)
          | none => throw (.invalidTarget token.position)) := by
  refine current_follows fun _ _ _ _ => acceptFrom_follows (fun op => ?_) (.pure target)
  dsimp only
  split
  · exact .bind (hitem _).anywhere fun _ => .pure _
  · exact .throw _

end Items

theorem expression_follows (room : Nat) :
    (∀ limit, Follows Anywhere 1 1 limit (expression room) (expression room)) ∧
      (∀ limit, Follows Anywhere 1 1 limit (power room) (power room)) ∧
      ∀ limit, Follows Anywhere 1 1 limit (operand room) (operand room) := by
  induction room with
  | zero => exact ⟨fun _ => .throw _, fun _ => .throw _, fun _ => .throw _⟩
  | succ room ih =>
    obtain ⟨hexpression, hpower, hoperand⟩ := ih
    refine ⟨fun limit => ?_, fun limit => ?_, fun limit => ?_⟩
    · rw [expression]
      have hassigned := assigned_follows hexpression
      refine .bind (operators_follows hpower limit) fun test => ?_
      refine acceptOp_follows ?_ (.bind (.pure test) fun target => hassigned target _)
      refine .bind (hexpression _) fun yes => after_follows <| .bind (hexpression _) fun no => ?_
      exact .bind (.pure _) fun target => hassigned target _
    · rw [power]
      refine .bind (hoperand limit) fun base => acceptOp_follows ?_ (.pure base)
      exact .bind (hpower _) fun exponent => .pure _
    · rw [operand]
      refine acceptFrom_follows (fun op => .bind (hoperand _) fun value => .pure _) <|
        current_follows fun _ _ _ _ =>
          acceptFrom_follows (fun op => .bind (hoperand _) fun target => ?_)
          (stepped_follows hexpression limit).anywhere
      dsimp only
      split
      · exact .pure _
      · exact .throw _

/-! ## Statements -/

section Items

variable {item : Reader Expr} (hitem : ∀ limit, Follows Anywhere 1 1 limit item item)

include hitem

theorem declarationsFrom_follows {declarator : Declarator} {fuel fuel' : Nat}
    (hlimit : limit ≤ fuel) (hfuel : fuel ≤ fuel') :
    Follows Anywhere 1 0 limit (declarationsFrom item declarator fuel)
      (declarationsFrom item declarator fuel') := by
  induction fuel generalizing limit fuel' with
  | zero =>
    obtain rfl := Nat.le_zero.mp hlimit
    exact .nothing
  | succ fuel ih =>
    obtain ⟨fuel', rfl⟩ : ∃ more, fuel' = more + 1 := ⟨fuel' - 1, by omega⟩
    have hrest (name : String) (value : Option Expr) (limit : Nat) (hlimit : limit ≤ fuel) :
        Follows Anywhere 1 0 limit
          (do
            if ← acceptOp "," then
              return .declare declarator name value :: (← declarationsFrom item declarator fuel)
            else return [.declare declarator name value])
          (do
            if ← acceptOp "," then
              return .declare declarator name value :: (← declarationsFrom item declarator fuel')
            else return [.declare declarator name value]) :=
      acceptOp_follows (.bind (ih (by omega) (by omega)) fun _ => .pure _) (.pure _)
    rw [declarationsFrom, declarationsFrom]
    refine .bind expectName_follows.blind fun name => acceptOp_follows ?_ (.either ?_ ?_)
    · exact .bind (hitem _) fun value => .bind (.pure _) fun value => hrest name value _ (by omega)
    · exact fun _ => current_follows fun _ _ _ _ => .throw _
    · exact fun _ => .bind (.pure _) fun value => hrest name value _ (by omega)

theorem declaration_follows (declarator : Declarator) (limit : Nat) :
    Follows Anywhere 1 0 limit (declaration item declarator) (declaration item declarator) := by
  refine bound_follows fun fuel fuel' hfuel =>
    .bind (declarationsFrom_follows hitem (Nat.le_refl _) hfuel) fun stmts => ?_
  split <;> exact .pure _

theorem parenthesized_follows (limit : Nat) :
    Follows Anywhere 1 1 limit (parenthesized item) (parenthesized item) :=
  after_follows <| .bind (hitem _) fun expr => after_follows (.pure expr)

theorem optionalUntil_follows (close : String) (limit : Nat) :
    Follows Anywhere 1 0 limit (optionalUntil item close) (optionalUntil item close) :=
  atOp_follows (.pure none) (.bind (hitem _) fun _ => .pure _)

theorem loopStart_follows (limit : Nat) :
    Follows Anywhere 1 0 limit (loopStart item) (loopStart item) :=
  atOp_follows (.pure none) <| acceptDeclarator_follows
    (fun declarator => .bind (declaration_follows hitem declarator _) fun _ => .pure _)
    (.bind (hitem _) fun _ => .pure _)

theorem returned_follows (limit : Nat) :
    Follows Anywhere 1 0 limit (returned item) (returned item) :=
  current_follows fun _ _ _ _ => .either (fun _ => .pure none) fun _ =>
    .bind (hitem _).anywhere fun _ => .pure _

end Items

theorem endStatement_follows (limit : Nat) : Follows Anywhere 1 0 limit endStatement endStatement :=
  accept_follows_of_le (Nat.le_refl _) (by decide) (.pure ()) (.pure ())

section Statements

variable {inner : Reader Stmt} (hinner : ∀ limit, Follows Anywhere 1 1 limit inner inner)

include hinner

theorem statementsFrom_follows {fuel fuel' : Nat} (hlimit : limit ≤ fuel) (hfuel : fuel ≤ fuel') :
    Follows Anywhere 1 0 limit (statementsFrom inner fuel) (statementsFrom inner fuel') := by
  induction fuel generalizing limit fuel' with
  | zero =>
    obtain rfl := Nat.le_zero.mp hlimit
    exact .nothing
  | succ fuel ih =>
    obtain ⟨fuel', rfl⟩ : ∃ more, fuel' = more + 1 := ⟨fuel' - 1, by omega⟩
    have hrest {start : List Token → Prop} : Follows start 1 0 limit
        (do
          let first ← inner
          return first :: (← statementsFrom inner fuel))
        (do
          let first ← inner
          return first :: (← statementsFrom inner fuel')) :=
      .bind (hinner _).anywhere fun first => .bind (ih (by omega) (by omega)) fun _ => .pure _
    exact acceptOp_follows (.pure []) <| current_follows fun _ _ _ _ =>
      .either (fun _ => .throw _) fun _ => hrest

theorem blockBody_follows (limit : Nat) :
    Follows Anywhere 1 1 limit (blockBody inner) (blockBody inner) :=
  after_follows <| bound_follows fun _ _ hfuel =>
    statementsFrom_follows hinner (Nat.le_refl _) hfuel

end Statements

theorem statement_follows (room limit : Nat) :
    Follows Anywhere 1 1 limit (statement room) (statement room) := by
  induction room generalizing limit with
  | zero => exact .throw _
  | succ room hinner =>
    have hitem := (expression_follows room).1
    rw [statement]
    refine atOp_follows (.bind (blockBody_follows hinner _) fun _ => .pure _) ?_
    refine acceptOp_follows (.pure _) ?_
    refine acceptDeclarator_follows (fun declarator => ?_) ?_
    · exact .bind (declaration_follows hitem declarator _) fun stmt =>
        .bind (endStatement_follows _) fun _ => .pure stmt
    refine keyword_follows ?_ (keyword_follows ?_ (keyword_follows ?_ (keyword_follows ?_ ?_)))
    · refine .bind (parenthesized_follows hitem _) fun test => .bind (hinner _) fun yes => ?_
      exact keyword_follows (.bind (hinner _) fun _ => .pure _) (.pure _)
    · exact .bind (parenthesized_follows hitem _) fun test => .bind (hinner _) fun _ => .pure _
    · exact after_follows <| .bind (loopStart_follows hitem _) fun start => after_follows <|
        .bind (optionalUntil_follows hitem _ _) fun test => after_follows <|
        .bind (optionalUntil_follows hitem _ _) fun next => after_follows <|
        .bind (hinner _) fun _ => .pure _
    · exact .bind (returned_follows hitem _) fun _ =>
        .bind (endStatement_follows _) fun _ => .pure _
    · exact .bind (hitem _) fun expr => .bind (endStatement_follows _) fun _ => .pure _

end Reader

open Reader

/-! ## Whole programs -/

theorem readMapping_follows (limit : Nat) :
    Follows Anywhere 1 1 limit readMapping readMapping :=
  .bind ((mapping_follows (expression_follows _).1 limit).more 1).blind fun _ =>
    accept_follows_of_le (Nat.le_refl _) (by decide) (.bind expectEnd_follows fun _ => .pure _)
      (.bind expectEnd_follows fun _ => .pure _)

/-- An empty parameter list and a body of at most the given nesting. -/
def bodyWithin (room : Nat) : Reader (List Stmt) := do
  expectOp "("
  expectOp ")"
  let body ← blockBody (statement room)
  expectEnd
  return body

theorem readBody_eq : readBody = bodyWithin bodyRoom := rfl

theorem run_bodyWithin {room : Nat} {rest : List Token} {position place place' : Position} :
    (bodyWithin room).run
      (⟨.op, "(", position⟩ :: ⟨.op, ")", place⟩ :: ⟨.op, "\x7b", place'⟩ :: rest) =
      (do
        let body ← statementsFrom (statement room) (rest.length + 1)
        expectEnd
        return body).run rest := rfl

theorem bodyWithin_follows (room limit : Nat) :
    Follows Anywhere 1 1 limit (bodyWithin room) (bodyWithin room) :=
  after_follows <| after_follows <| .bind (blockBody_follows (statement_follows room) _) fun _ =>
    .bind expectEnd_follows fun _ => .pure _

/-- What reads the programs of a grammar. -/
def readerOf : Grammar → Reader (List Stmt)
  | .shorthand => readMapping
  | .expanded => readBody

theorem readerOf_follows (grammar : Grammar) (limit : Nat) :
    Follows Anywhere 1 1 limit (readerOf grammar) (readerOf grammar) := by
  cases grammar with
  | shorthand => exact readMapping_follows limit
  | expanded =>
    rw [readerOf, readBody_eq]
    exact bodyWithin_follows bodyRoom limit

theorem parse_eq_ok_iff {source : String} {grammar : Grammar} {body : List Stmt} :
    parse grammar source = .ok body ↔
      ∃ tokens left, tokenize source = .ok tokens ∧
        (readerOf grammar).run tokens = .ok (body, left) := by
  simp only [parse, bind_eq_ok_iff, Prod.exists]
  constructor
  · rintro ⟨tokens, htokens, _, left, hrun, hbody⟩
    cases hbody
    exact ⟨tokens, left, htokens, hrun⟩
  · rintro ⟨tokens, left, htokens, hrun⟩
    exact ⟨tokens, htokens, body, left, hrun, rfl⟩

/-- A text is the program that is read over tokens that mean the same as its own. -/
theorem parse_of_run {source : String} {tokens others left : List Token} {grammar : Grammar}
    {body : List Stmt} (hsource : tokenize source = .ok tokens)
    (halike : List.Forall₂ Token.Alike others tokens)
    (hrun : (readerOf grammar).run others = .ok (body, left)) :
    parse grammar source = .ok body := by
  have hrun : (readerOf grammar).run (others ++ []) = .ok (body, left ++ []) := by simpa using hrun
  obtain ⟨left', -, hrun'⟩ := (readerOf_follows grammar _).follows trivial (Nat.lt_succ_self _)
    halike (Nat.le_refl _) (.inr ⟨rfl, rfl⟩) hrun
  rw [List.append_nil] at hrun'
  exact parse_eq_ok_iff.mpr ⟨tokens, _, hsource, hrun'⟩

/-- A text whose tokens mean the same as those of a program is that program. -/
theorem parse_of_alike {source other : String} {tokens others : List Token}
    (hsource : tokenize source = .ok tokens) (hother : tokenize other = .ok others)
    (halike : List.Forall₂ Token.Alike tokens others) {grammar : Grammar} {body : List Stmt}
    (h : parse grammar source = .ok body) : parse grammar other = .ok body := by
  obtain ⟨found, left, hfound, hrun⟩ := parse_eq_ok_iff.mp h
  obtain rfl : tokens = found := Except.ok.inj (hsource.symm.trans hfound)
  exact parse_of_run hother halike hrun

end Canvasflow.Program
