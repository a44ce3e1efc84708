import Canvasflow.Program.Parser
import Canvasflow.Proofs.Program.LikeRuns

/-!
# What programs are read from a text

A reader takes tokens off the front of the tokens of a text, so what it gives is built from the
names, texts and keys that these tokens write, and a list in it has no more items than there are
tokens. `parse_fits` says so of whole programs: a text of limited length gives only programs whose
texts and lists are within the limit.
-/

namespace Canvasflow.Program

/-- A reader, on some tokens or on what is left of them, gives only results of a kind and leaves the
tokens at the end of what it is given. -/
def Reads {α : Type} (all : List Token) (reader : Reader α) (kind : α → Prop) : Prop :=
  ∀ tokens, tokens <:+ all → ∀ a rest, reader.run tokens = .ok (a, rest) →
    rest <:+ tokens ∧ kind a

namespace Reads

variable {α β : Type} {all : List Token} {P : α → Prop} {next : β → Prop}

theorem pure {a : α} (h : P a) : Reads all (pure a) P := by
  intro tokens htokens b rest hrun
  cases hrun
  exact ⟨List.suffix_rfl, h⟩

theorem throw (fault : SyntaxFault) : Reads all (throw fault : Reader α) P :=
  fun _ _ _ _ hrun => nomatch hrun

theorem bind {first : Reader α} {rest : α → Reader β} (hfirst : Reads all first P)
    (hrest : ∀ a, P a → Reads all (rest a) next) : Reads all (first >>= rest) next := by
  intro tokens htokens b last hrun
  rw [StateT.run_bind] at hrun
  obtain ⟨⟨a, left⟩, hrun₁, hrun₂⟩ := bind_eq_ok_iff.mp hrun
  obtain ⟨hleft, ha⟩ := hfirst tokens htokens a left hrun₁
  obtain ⟨hlast, hb⟩ := hrest a ha left (hleft.trans htokens) b last hrun₂
  exact ⟨hlast.trans hleft, hb⟩

theorem mono {Q : α → Prop} {reader : Reader α} (h : Reads all reader P)
    (hPQ : ∀ a, P a → Q a) : Reads all reader Q :=
  fun tokens htokens a rest hrun =>
    ⟨(h tokens htokens a rest hrun).1, hPQ a (h tokens htokens a rest hrun).2⟩

/-- What holds on some tokens holds on what is left of them. -/
theorem of_suffix {left : List Token} {reader : Reader α} (h : Reads all reader P)
    (hleft : left <:+ all) : Reads left reader P :=
  fun tokens htokens => h tokens (htokens.trans hleft)

end Reads

namespace Reader

variable {α β : Type} {all : List Token} {L : Likeness}

/-! ## Single tokens -/

theorem advance_reads : Reads all advance fun _ => True := by
  intro tokens _ _ rest hrun
  cases hrun
  exact ⟨List.tail_suffix tokens, trivial⟩

theorem bound_reads : Reads all bound fun n => n ≤ all.length + 1 := by
  intro tokens htokens n rest hrun
  cases hrun
  exact ⟨List.suffix_rfl, Nat.succ_le_succ htokens.length_le⟩

/-- The tokens may be the names, texts and keys of a program, and a list may have as many items as
there are tokens. -/
structure Written (L : Likeness) (all : List Token) : Prop where
  none : L.text ""
  value {token : Token} : token ∈ all → L.text token.value
  text {token : Token} : token ∈ all → L.text (unquote token.value)
  key {token : Token} : token ∈ all → L.text (keyOf token)
  size {n : Nat} : n ≤ all.length → L.size n

/-- A token whose name, text and key may occur. -/
def Writes (L : Likeness) (token : Token) : Prop :=
  L.text token.value ∧ L.text (unquote token.value) ∧ L.text (keyOf token)

theorem current_reads (h : Written L all) : Reads all current (Writes L) := by
  intro tokens htokens token rest hrun
  cases hrun
  refine ⟨List.suffix_rfl, ?_⟩
  cases tokens with
  | nil => exact ⟨h.none, h.none, h.none⟩
  | cons first rest =>
    have hmem : first ∈ all := htokens.subset (List.mem_cons_self ..)
    exact ⟨h.value hmem, h.text hmem, h.key hmem⟩

theorem atOp_reads (op : String) : Reads all (atOp op) fun _ => True := by
  intro tokens _ _ rest hrun
  cases hrun
  exact ⟨List.suffix_rfl, trivial⟩

/-- A token that may be taken is the first one if it is taken. -/
theorem run_accept {kind : TokenKind} (hkind : kind ≠ .endOfText) {value : String}
    {tokens left : List Token} {taken : Bool}
    (hrun : (accept kind value).run tokens = .ok (taken, left)) :
    (taken = true ∧ ∃ first, tokens = first :: left) ∨ taken = false ∧ left = tokens := by
  change (if isToken kind value (tokens.head?.getD ⟨.endOfText, "", .start⟩)
    then (do advance; pure true : Reader Bool) else Pure.pure false).run tokens = _ at hrun
  split at hrun
  · rename_i htoken
    cases hrun
    cases tokens with
    | nil =>
      simp only [isToken, Bool.and_eq_true, beq_iff_eq] at htoken
      exact absurd htoken.1.symm hkind
    | cons first others => exact .inl ⟨rfl, first, rfl⟩
  · cases hrun
    exact .inr ⟨rfl, rfl⟩

theorem accept_reads {kind : TokenKind} (hkind : kind ≠ .endOfText) (value : String) :
    Reads all (accept kind value) fun _ => True := by
  intro tokens _ taken left hrun
  obtain ⟨-, first, rfl⟩ | ⟨-, rfl⟩ := run_accept hkind hrun
  · exact ⟨List.suffix_cons first left, trivial⟩
  · exact ⟨List.suffix_rfl, trivial⟩

theorem acceptOp_reads (op : String) : Reads all (acceptOp op) fun _ => True :=
  accept_reads (by decide) op

/-- What follows an operator that may be taken is read on fewer tokens if it is. -/
theorem acceptOp_bind {op : String} {rest : Bool → Reader β} {next : β → Prop}
    (htaken : ∀ left, left <:+ all → left.length < all.length → Reads left (rest true) next)
    (hleft : Reads all (rest false) next) : Reads all (acceptOp op >>= rest) next := by
  intro tokens htokens b last hrun
  rw [StateT.run_bind] at hrun
  obtain ⟨⟨taken, left⟩, haccept, hrest⟩ := bind_eq_ok_iff.mp hrun
  obtain ⟨rfl, first, rfl⟩ | ⟨rfl, rfl⟩ := run_accept (by decide) haccept
  · have hsuffix : left <:+ first :: left := List.suffix_cons first left
    obtain ⟨hlast, hb⟩ := htaken left (hsuffix.trans htokens)
      (Nat.lt_of_lt_of_le (Nat.lt_succ_self _) htokens.length_le) left List.suffix_rfl b last hrest
    exact ⟨hlast.trans hsuffix, hb⟩
  · exact hleft left htokens b last hrest

theorem expectOp_reads (op : String) : Reads all (expectOp op) fun _ => True := by
  intro tokens _ _ rest hrun
  change (if isToken .op op (tokens.head?.getD ⟨.endOfText, "", .start⟩)
    then advance else throw _ : Reader Unit).run tokens = _ at hrun
  split at hrun
  · cases hrun
    exact ⟨List.tail_suffix tokens, trivial⟩
  · cases hrun

/-- An operator that has to be the first token leaves fewer tokens. -/
theorem expectOp_shorter {op : String} {tokens rest : List Token}
    (hrun : (expectOp op).run tokens = .ok ((), rest)) : ∃ first, tokens = first :: rest := by
  change (if isToken .op op (tokens.head?.getD ⟨.endOfText, "", .start⟩)
    then advance else throw _ : Reader Unit).run tokens = _ at hrun
  split at hrun
  · rename_i htoken
    cases hrun
    cases tokens with
    | nil => simp [isToken] at htoken
    | cons first others => exact ⟨first, rfl⟩
  · cases hrun

theorem expectEnd_reads : Reads all expectEnd fun _ => True := by
  intro tokens _ _ rest hrun
  change (if (tokens.head?.getD ⟨.endOfText, "", .start⟩).kind ≠ .endOfText
    then throw _ else Pure.pure () : Reader Unit).run tokens = _ at hrun
  split at hrun
  · cases hrun
  · cases hrun
    exact ⟨List.suffix_rfl, trivial⟩

/-- What is read when an expression that fits is a place. -/
theorem place_reads {kind : α → Prop} {expr : Expr} (hexpr : L.FitsExpr expr)
    {found : Place → Reader α} {otherwise : Reader α}
    (hfound : ∀ place, L.FitsPlace place → Reads all (found place) kind)
    (hotherwise : Reads all otherwise kind) :
    Reads all (match expr.place? with
      | some place => found place
      | none => otherwise) kind := by
  cases expr with
  | read place => exact hfound place hexpr
  | _ => exact hotherwise

section Tokens

variable (h : Written L all)

include h

theorem expectName_reads : Reads all expectName fun _ => True := by
  refine .bind (current_reads h) fun token _ => ?_
  split
  · exact .bind advance_reads fun _ _ => .pure trivial
  · exact .throw _

theorem acceptFrom_reads {α : Type} (table : List (String × α)) :
    Reads all (acceptFrom table) fun _ => True := by
  refine .bind (current_reads h) fun token _ => ?_
  split
  · split
    · exact .bind advance_reads fun _ _ => .pure trivial
    · exact .pure trivial
  · exact .pure trivial

theorem memberName_reads : Reads all memberName L.text := by
  refine .bind (current_reads h) fun token htoken => ?_
  split
  · exact .bind advance_reads fun _ _ => .pure htoken.1
  · exact .throw _

theorem acceptDeclarator_reads : Reads all acceptDeclarator fun _ => True := by
  refine .bind (current_reads h) fun token _ => ?_
  split
  · split
    · exact .bind advance_reads fun _ _ => .pure trivial
    · exact .pure trivial
  · exact .pure trivial

/-! ## Expressions -/

section Items

variable {item : Reader Expr} (hitem : Reads all item L.FitsExpr)

include hitem

theorem chainFrom_reads {α : Type} (table : List (String × α)) {join : Expr → α → Expr → Expr}
    (hjoin : ∀ a op b, L.FitsExpr a → L.FitsExpr b → L.FitsExpr (join a op b)) (fuel : Nat)
    {left : Expr} (hleft : L.FitsExpr left) :
    Reads all (chainFrom item table join fuel left) L.FitsExpr := by
  induction fuel generalizing left with
  | zero => exact .pure hleft
  | succ fuel ih =>
    refine .bind (acceptFrom_reads h table) fun op _ => ?_
    cases op with
    | none => exact .pure hleft
    | some op => exact .bind hitem fun right hright => ih (hjoin _ _ _ hleft hright)

theorem chain_reads {α : Type} (table : List (String × α)) {join : Expr → α → Expr → Expr}
    (hjoin : ∀ a op b, L.FitsExpr a → L.FitsExpr b → L.FitsExpr (join a op b)) :
    Reads all (chain item table join) L.FitsExpr :=
  .bind hitem fun _ hfirst => .bind bound_reads fun fuel _ =>
    chainFrom_reads h hitem table hjoin fuel hfirst

theorem operators_reads : Reads all (operators item) L.FitsExpr := by
  have hbinary (a : Expr) (op : BinaryOp) (b : Expr) (ha : L.FitsExpr a) (hb : L.FitsExpr b) :
      L.FitsExpr (.binary a op b) := ⟨ha, hb⟩
  have hlogical (a : Expr) (op : LogicalOp) (b : Expr) (ha : L.FitsExpr a) (hb : L.FitsExpr b) :
      L.FitsExpr (.logical a op b) := ⟨ha, hb⟩
  exact chain_reads h (chain_reads h (chain_reads h (chain_reads h (chain_reads h (chain_reads h
    (chain_reads h hitem _ hbinary) _ hbinary) _ hbinary) _ hbinary) _ hlogical) _ hlogical) _
    hlogical

omit h in
theorem itemsUntil_reads (close : String) (fuel : Nat) :
    Reads all (itemsUntil item close fuel) fun items => items.length ≤ fuel ∧ L.FitsAll items := by
  induction fuel with
  | zero => exact .pure ⟨Nat.le_refl 0, trivial⟩
  | succ fuel ih =>
    refine .bind (acceptOp_reads close) fun done _ => ?_
    split
    · exact .pure ⟨Nat.zero_le _, trivial⟩
    · refine .bind hitem fun first hfirst => .bind (atOp_reads close) fun last _ => ?_
      have hrest : Reads all (do return first :: (← itemsUntil item close fuel))
          fun items => items.length ≤ fuel + 1 ∧ L.FitsAll items :=
        .bind ih fun rest hrest => .pure ⟨Nat.succ_le_succ hrest.1, hfirst, hrest.2⟩
      split
      · exact .bind (expectOp_reads ",") fun _ _ => hrest
      · exact hrest

omit h in
theorem arguments_reads : Reads all (arguments item) L.FitsAll :=
  .bind bound_reads fun fuel _ => (itemsUntil_reads hitem ")" fuel).mono fun _ hitems => hitems.2

omit h in
theorem bracketIndex_reads : Reads all (bracketIndex item) L.FitsExpr :=
  .bind hitem fun _ hindex => .bind (expectOp_reads "]") fun _ _ => .pure hindex

theorem suffixesFrom_reads (fuel : Nat) {expr : Expr} (hexpr : L.FitsExpr expr) :
    Reads all (suffixesFrom item fuel expr) L.FitsExpr := by
  induction fuel generalizing expr with
  | zero => exact .pure hexpr
  | succ fuel ih =>
    have hmember (optional : Bool) : Reads all
        (do suffixesFrom item fuel (.read (.member expr (← memberName) optional))) L.FitsExpr :=
      .bind (memberName_reads h) fun _ hname => ih ⟨hexpr, hname⟩
    have hindex (optional : Bool) : Reads all
        (do suffixesFrom item fuel (.read (.index expr (← bracketIndex item) optional)))
        L.FitsExpr :=
      .bind (bracketIndex_reads hitem) fun _ hindex => ih ⟨hexpr, hindex⟩
    refine .bind (acceptOp_reads _) fun dot _ => ?_
    split
    · exact hmember false
    · refine .bind (acceptOp_reads _) fun chained _ => ?_
      split
      · refine .bind (acceptOp_reads _) fun bracket _ => ?_
        split
        · exact hindex true
        · exact hmember true
      · refine .bind (acceptOp_reads _) fun bracket _ => ?_
        split
        · exact hindex false
        · refine .bind (acceptOp_reads _) fun parenthesis _ => ?_
          split
          · exact .bind (arguments_reads hitem) fun _ hargs => ih ⟨hexpr, hargs⟩
          · exact .pure hexpr

theorem entry_reads : Reads all (entry item) L.FitsEntry := by
  refine .bind (current_reads h) fun token htoken => .bind (acceptOp_reads _) fun spread _ => ?_
  split
  · exact .bind hitem fun _ hvalue => .pure hvalue
  · split
    · refine .bind advance_reads fun _ _ => .bind (acceptOp_reads _) fun colon _ => ?_
      split
      · exact .bind hitem fun _ hvalue => .pure ⟨htoken.2.2, hvalue⟩
      · split
        · exact .pure ⟨htoken.2.2, trivial⟩
        · exact .throw _
    · exact .throw _

theorem entriesFrom_reads (fuel : Nat) : Reads all (entriesFrom item fuel) L.FitsEntries := by
  induction fuel with
  | zero => exact .pure trivial
  | succ fuel ih =>
    refine .bind (acceptOp_reads _) fun done _ => ?_
    split
    · exact .pure trivial
    · refine .bind (entry_reads h hitem) fun first hfirst => .bind (atOp_reads _) fun last _ => ?_
      have hrest : Reads all (do return first :: (← entriesFrom item fuel)) L.FitsEntries :=
        .bind ih fun rest hrest => .pure ⟨hfirst, hrest⟩
      split
      · exact .bind (expectOp_reads ",") fun _ _ => hrest
      · exact hrest

theorem mapping_reads : Reads all (mapping item) L.FitsExpr :=
  .bind (expectOp_reads _) fun _ _ => .bind bound_reads fun fuel _ =>
    .bind (entriesFrom_reads h hitem fuel) fun _ hentries => .pure hentries

omit h hitem in
theorem fitsLiteral_of_word {word : String} {value : Literal}
    (hvalue : Entries.find? word literalWords = some value) : L.FitsLiteral value := by
  have hplain : ∀ row ∈ literalWords, L.FitsLiteral row.2 := by
    simp [literalWords, Likeness.FitsLiteral]
  exact hplain _ (Entries.mem_of_find? hvalue)

theorem primary_reads : Reads all (primary item) L.FitsExpr := by
  refine .bind (current_reads h) fun token htoken => ?_
  split
  · exact .bind advance_reads fun _ _ => .pure trivial
  · exact .bind advance_reads fun _ _ => .pure htoken.2.1
  · split
    · rename_i value hvalue
      exact .bind advance_reads fun _ _ => .pure (fitsLiteral_of_word hvalue)
    · exact .throw _
  · exact .bind advance_reads fun _ _ => .pure trivial
  · refine .bind (acceptOp_reads _) fun parenthesis _ => ?_
    split
    · exact .bind hitem fun _ hexpr => .bind (expectOp_reads _) fun _ _ => .pure hexpr
    · split
      · exact mapping_reads h hitem
      -- the bracket is taken before the items, so there are no more of them than tokens
      · refine acceptOp_bind (fun left hleft hshorter => ?_) (.throw _)
        refine .bind bound_reads fun fuel hfuel =>
          .bind (itemsUntil_reads (hitem.of_suffix hleft) "]" fuel)
            fun items hitems => .pure ⟨h.size ?_, hitems.2⟩
        omega
  · exact .throw _

theorem stepped_reads : Reads all (stepped item) L.FitsExpr := by
  refine .bind bound_reads fun fuel _ => .bind (primary_reads h hitem) fun first hfirst =>
    .bind (suffixesFrom_reads h hitem fuel hfirst) fun expr hexpr =>
      .bind (current_reads h) fun token _ => .bind (acceptFrom_reads h updateOps) fun op _ => ?_
  cases op with
  | none => exact .pure hexpr
  | some op => exact place_reads hexpr (fun _ hplace => .pure hplace) (.throw _)

/-- What is read after the target of an assignment, or after what is none. -/
theorem assigned_reads (target : Expr) (htarget : L.FitsExpr target) :
    Reads all (do
      let token ← current
      match ← acceptFrom assignOps with
      | none => return target
      | some op => match target.place? with
        | some place => return .assign place op (← item)
        | none => throw (.invalidTarget token.position)) L.FitsExpr := by
  refine .bind (current_reads h) fun token _ => .bind (acceptFrom_reads h assignOps) fun op _ => ?_
  cases op with
  | none => exact .pure htarget
  | some op =>
    exact place_reads htarget (fun _ hplace => .bind hitem fun _ hvalue => .pure ⟨hplace, hvalue⟩)
      (.throw _)

end Items

/-- An expression, a power and an operand within a room. -/
theorem expression_reads (room : Nat) : Reads all (expression room) L.FitsExpr ∧
    Reads all (power room) L.FitsExpr ∧ Reads all (operand room) L.FitsExpr := by
  induction room with
  | zero => exact ⟨.throw _, .throw _, .throw _⟩
  | succ room ih =>
    obtain ⟨hexpression, hpower, hoperand⟩ := ih
    refine ⟨?_, ?_, ?_⟩
    · rw [expression]
      have hassigned := assigned_reads h hexpression
      refine .bind (operators_reads h hpower) fun test htest =>
        .bind (acceptOp_reads _) fun asked _ => ?_
      split
      · exact .bind hexpression fun yes hyes => .bind (expectOp_reads _) fun _ _ =>
          .bind hexpression fun no hno =>
            .bind (.pure (P := L.FitsExpr) ⟨htest, hyes, hno⟩) hassigned
      · exact .bind (.pure htest) hassigned
    · rw [power]
      refine .bind hoperand fun base hbase => .bind (acceptOp_reads _) fun raised _ => ?_
      split
      · exact .bind hpower fun _ hexponent => .pure ⟨hbase, hexponent⟩
      · exact .pure hbase
    · rw [operand]
      refine .bind (acceptFrom_reads h unaryOps) fun op _ => ?_
      cases op with
      | some op => exact .bind hoperand fun _ hvalue => .pure hvalue
      | none =>
        refine .bind (current_reads h) fun token _ =>
          .bind (acceptFrom_reads h updateOps) fun op _ => ?_
        cases op with
        | some op =>
          exact .bind hoperand fun _ hvalue =>
            place_reads hvalue (fun _ hplace => .pure hplace) (.throw _)
        | none => exact stepped_reads h hexpression

/-! ## Statements -/

section Statements

variable {item : Reader Expr} (hitem : Reads all item L.FitsExpr)

include hitem

theorem declarationsFrom_reads (declarator : Declarator) (fuel : Nat) :
    Reads all (declarationsFrom item declarator fuel) L.FitsStmts := by
  induction fuel with
  | zero => exact .pure trivial
  | succ fuel ih =>
    rw [declarationsFrom]
    refine .bind (expectName_reads h) fun name _ => .bind (acceptOp_reads _) fun given _ => ?_
    have hrest (value : Option Expr) (hvalue : L.FitsExpr? value) : Reads all
        (do
          if ← acceptOp "," then
            return .declare declarator name value :: (← declarationsFrom item declarator fuel)
          else return [.declare declarator name value]) L.FitsStmts := by
      refine .bind (acceptOp_reads _) fun more _ => ?_
      split
      · exact .bind ih fun _ hothers => .pure ⟨hvalue, hothers⟩
      · exact .pure ⟨hvalue, trivial⟩
    split
    · exact .bind hitem fun value hvalue =>
        .bind (.pure (a := some value) (P := L.FitsExpr?) hvalue) hrest
    · split
      · exact .bind (current_reads h) fun _ _ => .throw _
      · exact .bind (.pure (P := L.FitsExpr?) trivial) hrest

theorem declaration_reads (declarator : Declarator) :
    Reads all (declaration item declarator) L.FitsStmt := by
  refine .bind bound_reads fun fuel _ =>
    .bind (declarationsFrom_reads h hitem declarator fuel) fun stmts hstmts => ?_
  split
  · exact .pure hstmts.1
  · exact .pure hstmts

omit h in
theorem parenthesized_reads : Reads all (parenthesized item) L.FitsExpr :=
  .bind (expectOp_reads _) fun _ _ => .bind hitem fun _ hexpr =>
    .bind (expectOp_reads _) fun _ _ => .pure hexpr

omit h in
theorem optionalUntil_reads (close : String) :
    Reads all (optionalUntil item close) L.FitsExpr? := by
  refine .bind (atOp_reads _) fun last _ => ?_
  split
  · exact .pure trivial
  · exact .bind hitem fun _ hexpr => .pure hexpr

theorem loopStart_reads : Reads all (loopStart item) L.FitsStmt? := by
  refine .bind (atOp_reads _) fun last _ => ?_
  split
  · exact .pure trivial
  · refine .bind (acceptDeclarator_reads h) fun declarator _ => ?_
    split
    · exact .bind (declaration_reads h hitem _) fun _ hstmt => .pure hstmt
    · exact .bind hitem fun _ hexpr => .pure hexpr

theorem returned_reads : Reads all (returned item) L.FitsExpr? := by
  refine .bind (current_reads h) fun token _ => ?_
  split
  · exact .pure trivial
  · exact .bind hitem fun _ hexpr => .pure hexpr

omit h hitem in
theorem endStatement_reads : Reads all endStatement fun _ => True :=
  .bind (acceptOp_reads _) fun _ _ => .pure trivial

end Statements

theorem statementsFrom_reads {inner : Reader Stmt} (hinner : Reads all inner L.FitsStmt)
    (fuel : Nat) : Reads all (statementsFrom inner fuel) L.FitsStmts := by
  induction fuel with
  | zero => exact .pure trivial
  | succ fuel ih =>
    refine .bind (acceptOp_reads _) fun done _ => ?_
    split
    · exact .pure trivial
    · refine .bind (current_reads h) fun token _ => ?_
      split
      · exact .bind (P := fun _ => True) (.throw _) fun _ _ => .bind hinner fun _ hfirst =>
          .bind ih fun _ hrest => .pure ⟨hfirst, hrest⟩
      · exact .bind hinner fun _ hfirst => .bind ih fun _ hrest => .pure ⟨hfirst, hrest⟩

theorem blockBody_reads {inner : Reader Stmt} (hinner : Reads all inner L.FitsStmt) :
    Reads all (blockBody inner) L.FitsStmts :=
  .bind (expectOp_reads _) fun _ _ => .bind bound_reads fun fuel _ =>
    statementsFrom_reads h hinner fuel

theorem statement_reads (room : Nat) : Reads all (statement room) L.FitsStmt := by
  induction room with
  | zero => exact .throw _
  | succ room hinner =>
    have hitem := (expression_reads h room).1
    have hkeyword (word : String) : Reads all (accept .keyword word) fun _ => True :=
      accept_reads (by decide) word
    rw [statement]
    refine .bind (atOp_reads _) fun block _ => ?_
    split
    · exact .bind (blockBody_reads h hinner) fun _ hbody => .pure hbody
    refine .bind (acceptOp_reads _) fun empty _ => ?_
    split
    · exact .pure trivial
    refine .bind (acceptDeclarator_reads h) fun declarator _ => ?_
    split
    · exact .bind (declaration_reads h hitem _) fun _ hstmt =>
        .bind endStatement_reads fun _ _ => .pure hstmt
    refine .bind (hkeyword "if") fun conditional _ => ?_
    split
    · refine .bind (parenthesized_reads hitem) fun test htest => .bind hinner fun yes hyes =>
        .bind (hkeyword "else") fun alternative _ => ?_
      split
      · exact .bind hinner fun _ hno => .pure ⟨htest, hyes, hno⟩
      · exact .pure ⟨htest, hyes, trivial⟩
    refine .bind (hkeyword "while") fun loop _ => ?_
    split
    · exact .bind (parenthesized_reads hitem) fun _ htest => .bind hinner fun _ hbody =>
        .pure ⟨htest, hbody⟩
    refine .bind (hkeyword "for") fun iterate _ => ?_
    split
    · exact .bind (expectOp_reads _) fun _ _ => .bind (loopStart_reads h hitem) fun _ hstart =>
        .bind (expectOp_reads _) fun _ _ => .bind (optionalUntil_reads hitem _) fun _ htest =>
        .bind (expectOp_reads _) fun _ _ => .bind (optionalUntil_reads hitem _) fun _ hnext =>
        .bind (expectOp_reads _) fun _ _ => .bind hinner fun _ hbody =>
          .pure ⟨hstart, htest, hnext, hbody⟩
    refine .bind (hkeyword "return") fun ret _ => ?_
    split
    · exact .bind (returned_reads h hitem) fun _ hvalue => .bind endStatement_reads fun _ _ =>
        .pure hvalue
    exact .bind hitem fun _ hexpr => .bind endStatement_reads fun _ _ => .pure hexpr

end Tokens

/-! ## Whole texts -/

/-- What is read after an operator that has to be the first token is read on the tokens after it. -/
theorem expectOp_bind {op : String} {rest : Unit → Reader β} {next : β → Prop}
    {tokens last : List Token} {b : β}
    (hrest : ∀ first left, tokens = first :: left → Reads left (rest ()) next)
    (hrun : (expectOp op >>= rest).run tokens = .ok (b, last)) : next b := by
  rw [StateT.run_bind] at hrun
  obtain ⟨⟨⟨⟩, left⟩, hexpect, hrest'⟩ := bind_eq_ok_iff.mp hrun
  obtain ⟨first, rfl⟩ := expectOp_shorter hexpect
  exact (hrest first left rfl left List.suffix_rfl b last hrest').2

end Reader

open Reader

variable {L : Likeness} {tokens : List Token} {body : List Stmt}

theorem readMapping_fits (hwritten : ∀ first left, tokens = first :: left → Written L left)
    {last : List Token} (hrun : readMapping.run tokens = .ok (body, last)) : L.FitsStmts body := by
  simp only [readMapping, mapping, bind_assoc] at hrun
  refine expectOp_bind (fun first left htokens => ?_) hrun
  have h := hwritten first left htokens
  refine .bind bound_reads fun fuel _ => .bind (entriesFrom_reads h (expression_reads h _).1 fuel)
    fun entries hentries => .bind (.pure (P := L.FitsExpr) hentries) fun value hvalue =>
      .bind (acceptOp_reads _) fun _ _ => .bind expectEnd_reads fun _ _ => .pure ⟨hvalue, trivial⟩

theorem readBody_fits (hwritten : ∀ first left, tokens = first :: left → Written L left)
    {last : List Token} (hrun : readBody.run tokens = .ok (body, last)) : L.FitsStmts body := by
  refine expectOp_bind (fun first left htokens => ?_) hrun
  have h := hwritten first left htokens
  exact .bind (expectOp_reads _) fun _ _ => .bind (blockBody_reads h (statement_reads h _))
    fun _ hbody => .bind expectEnd_reads fun _ _ => .pure hbody

theorem length_pieces_le (chars : List Char) : (pieces chars).length ≤ chars.length := by
  fun_induction pieces chars with
  | case1 => exact Nat.le_refl 0
  | case2 c rest found ih =>
    rw [List.length_cons, List.length_cons]
    have := List.length_drop (i := found.2) (l := rest)
    omega

theorem length_of_mem_pieces {chars : List Char} {piece : Piece} (h : piece ∈ pieces chars) :
    piece.chars.length ≤ chars.length := by
  have hsublist := List.sublist_flatten_of_mem (List.mem_map_of_mem (f := Piece.chars) h)
  rw [flatten_pieces] at hsublist
  exact hsublist.length_le

/-- Every token but the last is a piece, and pieces that mean nothing are left out. -/
theorem tokensFrom_ok {position : Position} {pieces : List Piece}
    (h : tokensFrom position pieces = .ok tokens) :
    tokens.length ≤ pieces.length + 1 ∧
      ∀ token ∈ tokens, token.value = "" ∨
        ∃ piece ∈ pieces, token.value = String.ofList piece.chars := by
  induction pieces generalizing position tokens with
  | nil =>
    cases h
    exact ⟨Nat.le_refl 1, by simp⟩
  | cons piece rest ih =>
    -- tokens found later come from pieces found later
    have hkept {following : List Token} (hfollowing : following.length ≤ rest.length + 1 ∧
        ∀ token ∈ following, token.value = "" ∨
          ∃ other ∈ rest, token.value = String.ofList other.chars) :
        ∀ token ∈ following, token.value = "" ∨
          ∃ other ∈ piece :: rest, token.value = String.ofList other.chars :=
      fun token htoken => (hfollowing.2 token htoken).imp_right fun ⟨other, hmem, hvalue⟩ =>
        ⟨other, List.mem_cons_of_mem _ hmem, hvalue⟩
    unfold tokensFrom at h
    split at h
    · cases h
    · obtain ⟨following, hrest, h⟩ := bind_eq_ok_iff.mp h
      have hfollowing := ih hrest
      split at h
      · cases h
        refine ⟨Nat.succ_le_succ hfollowing.1, fun token htoken => ?_⟩
        obtain rfl | htoken := List.mem_cons.mp htoken
        · exact .inr ⟨piece, List.mem_cons_self .., rfl⟩
        · exact hkept hfollowing token htoken
      · cases h
        exact ⟨hfollowing.1.trans (Nat.le_succ _), hkept hfollowing⟩

theorem tokenize_ok {source : String} (h : tokenize source = .ok tokens) :
    tokens.length ≤ source.length + 1 ∧ ∀ token ∈ tokens, token.value.length ≤ source.length := by
  unfold tokenize at h
  split at h
  · rename_i hfound
    cases h
    obtain ⟨hcount, hvalues⟩ := tokensFrom_ok hfound
    rw [← String.length_toList]
    refine ⟨hcount.trans (Nat.succ_le_succ (length_pieces_le _)), fun token htoken => ?_⟩
    obtain hempty | ⟨piece, hpiece, hvalue⟩ := hvalues token htoken
    · simp [hempty]
    · rw [hvalue, String.length_ofList]
      exact length_of_mem_pieces hpiece
  · cases h

theorem unescape_length_le (chars : List Char) : (unescape chars).length ≤ chars.length := by
  fun_induction unescape chars with
  | case1 | case2 => exact Nat.le_refl _
  | case3 | case4 | case5 =>
    simp only [List.length_cons]
    omega

theorem unquote_length_le (literal : String) : (unquote literal).length ≤ literal.length := by
  unfold unquote
  rw [String.length_ofList, ← String.length_toList]
  refine (unescape_length_le _).trans ?_
  simp only [List.length_dropLast, List.length_drop]
  omega

theorem keyOf_length_le (token : Token) :
    (keyOf token).length ≤ max token.value.length Number.textLimit := by
  unfold keyOf
  split
  · exact (unquote_length_le _).trans (Nat.le_max_left _ _)
  · split
    · exact Nat.le_max_left _ _
    · exact (Double.plain_length _).trans (by simp [Number.textLimit])
  · exact Nat.le_max_left _ _

/-- A program that is read from a text of limited length has no longer texts, and no lists with more
items. -/
theorem parse_fits {limit : Nat} (hlarge : Number.textLimit ≤ limit)
    (htext : ∀ text : String, text.length ≤ limit → L.text text)
    (hsize : ∀ n ≤ limit, L.size n) {grammar : Grammar} {source : String}
    (hlength : source.length ≤ limit) (hparse : parse grammar source = .ok body) :
    L.FitsStmts body := by
  unfold parse at hparse
  obtain ⟨tokens, htokenize, hparse⟩ := bind_eq_ok_iff.mp hparse
  obtain ⟨⟨_, last⟩, hrun, hparse⟩ := bind_eq_ok_iff.mp hparse
  cases hparse
  obtain ⟨hcount, hvalues⟩ := tokenize_ok htokenize
  have hwritten (first : Token) (left : List Token) (htokens : tokens = first :: left) :
      Written L left := by
    subst htokens
    have hvalue {token : Token} (htoken : token ∈ left) :=
      (hvalues token (List.mem_cons_of_mem _ htoken)).trans hlength
    refine ⟨htext _ (Nat.zero_le _), fun htoken => htext _ (hvalue htoken),
      fun htoken => htext _ ((unquote_length_le _).trans (hvalue htoken)),
      fun htoken => htext _ ((keyOf_length_le _).trans (Nat.max_le.mpr ⟨hvalue htoken, hlarge⟩)),
      fun hn => hsize _ (hn.trans (hlength.trans' ?_))⟩
    simpa using hcount
  cases grammar with
  | shorthand => exact readMapping_fits hwritten hrun
  | expanded => exact readBody_fits hwritten hrun

end Canvasflow.Program
