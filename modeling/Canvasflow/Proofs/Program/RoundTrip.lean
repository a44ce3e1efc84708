import Canvasflow.Proofs.Program.Following
import Canvasflow.Proofs.Program.Reparsing

/-!
# Programs are read back

The tokens of statements are read as these statements: parts may be left out, names may be declared
together, and an else belongs to the condition that it follows. With what is known of expressions,
whole programs come back from their tokens, wherever these stand in a text.
-/

namespace Canvasflow.Program.Reader

variable {spelling : Spelling} {expr : Expr} {rest : List Token} {room fuel : Nat}

/-! ## Parts of statements -/

/-- An expression of its own parentheses. -/
theorem run_enclosed (h : expr.Printable) (hroom : expr.nesting + 6 ≤ room) (hrest : Stops 0 rest) :
    (expression room).run (symbol "(" :: (expr.tokens spelling ++ symbol ")" :: rest)) =
      .ok (expr, rest) := by
  obtain ⟨room, rfl⟩ : ∃ less, room = less + 3 :=
    Nat.exists_eq_add_of_le' (Nat.le_trans (Nat.le_add_left 3 (expr.nesting + 3)) hroom)
  have hinside : (expression room).run (expr.tokens spelling ++ symbol ")" :: rest) =
      .ok (expr, symbol ")" :: rest) :=
    (reads_expr expr h).run_expression (by omega) (.of_none (by decide))
  have hprimary : (levelReader room 13).run
      (symbol "(" :: (expr.tokens spelling ++ symbol ")" :: rest)) = .ok (expr, rest) :=
    run_primary_enclosed.trans ((run_bind_ok hinside).trans rfl)
  exact run_levelReader_of_le (Nat.zero_le 13) (fun _ => .of_none (by decide) (by decide)) hprimary
    hrest

theorem run_parenthesized (spelling : Spelling) (h : expr.Printable)
    (hroom : expr.nesting + 3 ≤ room) (rest : List Token) :
    (parenthesized (expression room)).run
      (symbol "(" :: (expr.tokens spelling ++ symbol ")" :: rest)) = .ok (expr, rest) := by
  have hinside : (expression room).run (expr.tokens spelling ++ symbol ")" :: rest) =
      .ok (expr, symbol ")" :: rest) :=
    (reads_expr expr h).run_expression hroom (.of_none (by decide))
  rw [parenthesized, run_bind_ok (run_expectOp rfl), run_bind_ok hinside]
  rfl

theorem run_optionalUntil (spelling : Spelling) {close : String}
    (hclose : close = ";" ∨ close = ")") {value : Option Expr} (h : OptionPrintable value)
    (hroom : optionNesting value ≤ room) (rest : List Token) :
    (optionalUntil (expression room) close).run
      (optionTokens spelling value ++ symbol close :: rest) =
        .ok (value, symbol close :: rest) := by
  cases value with
  | none => obtain rfl | rfl := hclose <;> rfl
  | some value =>
    have hopens : isToken .op close
        (firstOf (value.tokens spelling ++ symbol close :: rest)) = false := by
      obtain rfl | rfl := hclose <;> exact (opens_tokens spelling value).not_isToken (by decide) _
    have hstops : Stops 0 (symbol close :: rest) := by
      obtain rfl | rfl := hclose <;> exact .of_none (by decide)
    have hreads : ReadsBack spelling value := reads_expr value h
    have hvalue := hreads.run_expression hroom hstops
    exact (run_optionalUntil_some hopens).trans ((run_bind_ok hvalue).trans rfl)

theorem run_returned (spelling : Spelling) {value : Option Expr} (h : OptionPrintable value)
    (hroom : optionNesting value ≤ room) (rest : List Token) :
    (returned (expression room)).run (optionTokens spelling value ++ symbol ";" :: rest) =
      .ok (value, symbol ";" :: rest) := by
  cases value with
  | none => rfl
  | some value =>
    have hvalue : (expression room).run (value.tokens spelling ++ symbol ";" :: rest) =
        .ok (value, symbol ";" :: rest) :=
      (reads_expr value h).run_expression hroom (.of_none (by decide))
    have hopens := opens_tokens spelling value
    refine (run_returned_some (hopens.kind_ne _) (hopens.not_isToken (by decide) _)
      (hopens.not_isToken (by decide) _)).trans ((run_bind_ok hvalue).trans rfl)

/-- One name with its value, up to the comma or the semicolon behind it. -/
theorem run_declared {declarator : Declarator} {value : Option Expr} {separator : String}
    (hseparator : separator = "," ∨ separator = ";") (h : DeclarationPrintable declarator value)
    (hroom : optionNesting value ≤ room) (name : String) (rest : List Token) :
    (declarationsFrom (expression room) declarator (fuel + 1)).run
      (named name :: ((if value.isSome then [symbol "="] else []) ++
        (optionTokens spelling value ++ symbol separator :: rest))) =
      (do
        let first := Stmt.declare declarator name value
        if ← acceptOp "," then
          return first :: (← declarationsFrom (expression room) declarator fuel)
        else return [first]).run (symbol separator :: rest) := by
  cases value with
  | none =>
    have hconst : declarator ≠ .constName := fun hconst => h.1 hconst rfl
    obtain rfl | rfl := hseparator <;> cases declarator <;> first | rfl | exact absurd rfl hconst
  | some value =>
    have hstops : Stops 0 (symbol separator :: rest) := by
      obtain rfl | rfl := hseparator <;> exact .of_none (by decide)
    have hreads : ReadsBack spelling value := reads_expr value h.2
    have hvalue := hreads.run_expression hroom hstops
    exact run_declarationsFrom_value.trans (run_bind_ok hvalue)

/-- Names that are declared together. -/
theorem run_declarationsFrom {declarator : Declarator} {decls : List (String × Option Expr)}
    (hne : decls ≠ []) (h : ∀ decl ∈ decls, DeclarationPrintable declarator decl.2)
    (hroom : declaredNesting decls ≤ room)
    (hfuel : (declaredTokens spelling decls).length ≤ fuel) :
    (declarationsFrom (expression room) declarator fuel).run
      (declaredTokens spelling decls ++ symbol ";" :: rest) =
        .ok (decls.map fun decl => .declare declarator decl.1 decl.2, symbol ";" :: rest) := by
  induction decls generalizing fuel with
  | nil => exact absurd rfl hne
  | cons decl decls ih =>
    obtain ⟨name, value⟩ := decl
    obtain ⟨hdecl, hdecls⟩ := List.forall_mem_cons.mp h
    obtain ⟨hvalue, hvalues⟩ := Nat.max_le.mp hroom
    obtain ⟨fuel, rfl⟩ : ∃ less, fuel = less + 1 :=
      Nat.exists_eq_add_of_le' (Nat.le_of_add_left_le hfuel)
    simp only [declaredTokens, List.cons_append, List.append_assoc] at hfuel ⊢
    cases decls with
    | nil => exact (run_declared (.inr rfl) hdecl hvalue name rest).trans rfl
    | cons next decls =>
      have hlength : (declaredTokens spelling (next :: decls)).length ≤ fuel := by
        simp only [List.length_cons, List.length_append] at hfuel
        omega
      have hrest := ih (List.cons_ne_nil next decls) hdecls hvalues hlength
      have hnext : (do
          return Stmt.declare declarator name value ::
            (← declarationsFrom (expression room) declarator fuel) : Reader (List Stmt)).run
          (declaredTokens spelling (next :: decls) ++ symbol ";" :: rest) = _ :=
        (run_bind_ok hrest).trans rfl
      exact (run_declared (.inl rfl) hdecl hvalue name _).trans hnext

/-- What names are read as that are declared together: one is a single statement, several are a
block. -/
def joined (declarator : Declarator) : List (String × Option Expr) → Stmt
  | [(name, value)] => .declare declarator name value
  | decls => .block (decls.map fun decl => .declare declarator decl.1 decl.2)

theorem run_declaration {declarator : Declarator} {decls : List (String × Option Expr)}
    (hne : decls ≠ []) (h : ∀ decl ∈ decls, DeclarationPrintable declarator decl.2)
    (hroom : declaredNesting decls ≤ room) (rest : List Token) :
    (declaration (expression room) declarator).run
      (declaredTokens spelling decls ++ symbol ";" :: rest) =
        .ok (joined declarator decls, symbol ";" :: rest) := by
  have hdecls : (declarationsFrom (expression room) declarator
      ((declaredTokens spelling decls ++ symbol ";" :: rest).length + 1)).run
        (declaredTokens spelling decls ++ symbol ";" :: rest) = _ :=
    run_declarationsFrom hne h hroom (by rw [List.length_append]; omega)
  rw [declaration, run_bind_ok run_bound, run_bind_ok hdecls]
  match decls with
  | [] | [_] | _ :: _ :: _ => rfl

/-- One name is read as a single statement. -/
theorem run_declare (spelling : Spelling) {declarator : Declarator} {value : Option Expr}
    (h : DeclarationPrintable declarator value) (hroom : optionNesting value ≤ room)
    (name : String) (rest : List Token) :
    (declaration (expression room) declarator).run
      (declaredTokens spelling [(name, value)] ++ symbol ";" :: rest) =
        .ok (.declare declarator name value, symbol ";" :: rest) :=
  run_declaration (List.cons_ne_nil (name, value) []) (List.forall_mem_singleton.mpr h)
    (Nat.max_le.mpr ⟨hroom, Nat.zero_le room⟩) rest

/-- The start of a loop is read up to its semicolon. -/
theorem run_loopStart (spelling : Spelling) {start : Option Stmt} (h : StartPrintable start)
    (hroom : startNesting start ≤ room) (rest : List Token) :
    (loopStart (expression room)).run (startTokens spelling start ++ rest) =
      .ok (start, symbol ";" :: rest) := by
  match start with
  | none => rfl
  | some (.expr value) =>
    have hvalue : (expression room).run
        (symbol "(" :: (value.tokens spelling ++ symbol ")" :: symbol ";" :: rest)) =
          .ok (value, symbol ";" :: rest) := run_enclosed h hroom (.of_none (by decide))
    rw [startTokens, List.cons_append, List.append_assoc]
    exact run_loopStart_enclosed.trans ((run_bind_ok hvalue).trans rfl)
  | some (.declare declarator name value) =>
    have hroom : optionNesting value ≤ room := (Nat.max_le.mp hroom).1
    have hdeclaration := run_declare spelling h hroom name rest
    rw [startTokens, List.cons_append, List.append_assoc]
    exact (run_loopStart_declare declarator).trans ((run_bind_ok hdeclaration).trans rfl)
  | some (.block (.declare declarator name value :: others)) =>
    obtain ⟨hfirst, hne, hothers⟩ := h
    have hdeclaration : (declaration (expression room) declarator).run
        (declaredTokens spelling ((name, value) :: others.map Stmt.declared) ++
          symbol ";" :: rest) =
            .ok (joined declarator ((name, value) :: others.map Stmt.declared),
              symbol ";" :: rest) := by
      refine run_declaration (List.cons_ne_nil _ _) ?_ hroom rest
      refine List.forall_mem_cons.mpr ⟨hfirst, List.forall_mem_map.mpr fun stmt hstmt => ?_⟩
      obtain ⟨name, value, rfl, hvalue⟩ := hothers stmt hstmt
      exact hvalue
    have hjoined : joined declarator ((name, value) :: others.map Stmt.declared) =
        .block (.declare declarator name value :: others) := by
      have hsame : (others.map Stmt.declared).map
          (fun decl => Stmt.declare declarator decl.1 decl.2) = others := by
        rw [List.map_map]
        refine (List.map_congr_left fun stmt hstmt => ?_).trans (List.map_id others)
        obtain ⟨name, value, rfl, -⟩ := hothers stmt hstmt
        rfl
      obtain ⟨next, others, rfl⟩ := List.exists_cons_of_ne_nil hne
      exact congrArg (fun others => Stmt.block (.declare declarator name value :: others)) hsame
    rw [startTokens, List.cons_append, List.append_assoc]
    rw [hjoined] at hdeclaration
    exact (run_loopStart_declare declarator).trans ((run_bind_ok hdeclaration).trans rfl)

/-! ## Statements -/

/-- A statement starts with no brace that closes a block, and with no else. -/
theorem starts_tokens (spelling : Spelling) (stmt : Stmt) (rest : List Token) :
    (firstOf (stmt.tokens spelling ++ rest)).kind ≠ .endOfText ∧
      isToken .op "\x7d" (firstOf (stmt.tokens spelling ++ rest)) = false ∧
      isToken .keyword "else" (firstOf (stmt.tokens spelling ++ rest)) = false := by
  rcases stmt with (_ | _ | _) | _ | _ | ⟨_, _, _ | _⟩ | _ | _ | _ | _ <;>
    exact ⟨nofun, rfl, rfl⟩

/-- No else follows a statement of a block. -/
theorem not_else_listTokens (body : List Stmt) (rest : List Token) :
    isToken .keyword "else" (firstOf (Stmt.listTokens spelling body ++ rest)) = false := by
  cases body with
  | nil => rfl
  | cons first body =>
    rw [Stmt.listTokens, List.append_assoc]
    exact (starts_tokens spelling first _).2.2

mutual

/-- A statement is read up to its end; only a block may have an else behind it. -/
theorem reads_stmt : (stmt : Stmt) → stmt.Printable → ∀ {room : Nat} {rest : List Token},
    stmt.nesting ≤ room → stmt.isBlock = true ∨ isToken .keyword "else" (firstOf rest) = false →
    (statement room).run (stmt.tokens spelling ++ rest) = .ok (stmt, rest)
  | .declare declarator name value, h, room + 1, rest, hroom, _ => by
    have hroom : optionNesting value ≤ room := (Nat.max_le.mp (Nat.le_of_succ_le_succ hroom)).1
    have hdeclaration := run_declare spelling h hroom name rest
    rw [Stmt.tokens, List.cons_append, List.append_assoc]
    exact (run_statement_declare declarator).trans ((run_bind_ok hdeclaration).trans rfl)
  | .expr value, h, room + 1, rest, hroom, _ => by
    have hvalue : (expression room).run
        (symbol "(" :: (value.tokens spelling ++ symbol ")" :: symbol ";" :: rest)) =
          .ok (value, symbol ";" :: rest) :=
      run_enclosed h (Nat.le_of_succ_le_succ hroom) (.of_none (by decide))
    rw [Stmt.tokens, List.cons_append, List.append_assoc]
    exact run_statement_enclosed.trans ((run_bind_ok hvalue).trans rfl)
  | .block body, h, room + 1, rest, hroom, _ => by
    have hbody : (statementsFrom (statement room)
        ((Stmt.listTokens spelling body ++ rest).length + 1)).run
          (Stmt.listTokens spelling body ++ rest) = .ok (body, rest) :=
      reads_stmts body h (Nat.le_of_succ_le_succ hroom) (by rw [List.length_append]; omega)
    rw [Stmt.tokens, List.cons_append]
    exact run_statement_block.trans ((run_bind_ok hbody).trans rfl)
  | .cond test yes none, h, room + 1, rest, hroom, helse => by
    obtain ⟨htest, hblock, hyes⟩ := h
    obtain ⟨hroom₁, hroom₂⟩ := Nat.max_le.mp (Nat.le_of_succ_le_succ hroom)
    have helse : isToken .keyword "else" (firstOf rest) = false :=
      helse.resolve_left (by simp [Stmt.isBlock])
    have htest := run_parenthesized spelling htest hroom₁ (yes.tokens spelling ++ rest)
    have hyes : (statement room).run (yes.tokens spelling ++ rest) = .ok (yes, rest) :=
      reads_stmt yes hyes hroom₂ (.inl hblock)
    simp only [Stmt.tokens, List.cons_append, List.append_assoc]
    refine run_statement_cond.trans ?_
    rw [run_bind_ok htest, run_bind_ok hyes, run_accept_else helse]
    rfl
  | .cond test yes (some no), h, room + 1, rest, hroom, helse => by
    obtain ⟨htest, hblock, hyes, hno⟩ := h
    obtain ⟨hroom₁, hrooms⟩ := Nat.max_le.mp (Nat.le_of_succ_le_succ hroom)
    obtain ⟨hroom₂, hroom₃⟩ := Nat.max_le.mp hrooms
    have htest := run_parenthesized spelling htest hroom₁
      (yes.tokens spelling ++ word "else" :: (no.tokens spelling ++ rest))
    have hyes : (statement room).run
        (yes.tokens spelling ++ word "else" :: (no.tokens spelling ++ rest)) =
          .ok (yes, word "else" :: (no.tokens spelling ++ rest)) :=
      reads_stmt yes hyes hroom₂ (.inl hblock)
    have hno : (statement room).run (no.tokens spelling ++ rest) = .ok (no, rest) :=
      reads_stmt no hno hroom₃ (.inr (helse.resolve_left (by simp [Stmt.isBlock])))
    simp only [Stmt.tokens, List.cons_append, List.append_assoc]
    refine run_statement_cond.trans ?_
    rw [run_bind_ok htest, run_bind_ok hyes, run_accept_then rfl, run_bind_ok hno]
    rfl
  | .loop test body, h, room + 1, rest, hroom, _ => by
    obtain ⟨htest, hblock, hbody⟩ := h
    obtain ⟨hroom₁, hroom₂⟩ := Nat.max_le.mp (Nat.le_of_succ_le_succ hroom)
    have htest := run_parenthesized spelling htest hroom₁ (body.tokens spelling ++ rest)
    have hbody : (statement room).run (body.tokens spelling ++ rest) = .ok (body, rest) :=
      reads_stmt body hbody hroom₂ (.inl hblock)
    simp only [Stmt.tokens, List.cons_append, List.append_assoc]
    refine run_statement_loop.trans ?_
    rw [run_bind_ok htest, run_bind_ok hbody]
    rfl
  | .iterate start test next body, h, room + 1, rest, hroom, _ => by
    obtain ⟨hstart, htest, hnext, hblock, hbody⟩ := h
    obtain ⟨hroom₁, hrooms⟩ := Nat.max_le.mp (Nat.le_of_succ_le_succ hroom)
    obtain ⟨hroom₂, hrooms⟩ := Nat.max_le.mp hrooms
    obtain ⟨hroom₃, hroom₄⟩ := Nat.max_le.mp hrooms
    have hbody : (statement room).run (body.tokens spelling ++ rest) = .ok (body, rest) :=
      reads_stmt body hbody hroom₄ (.inl hblock)
    have hnext := run_optionalUntil spelling (.inr rfl) hnext hroom₃
      (body.tokens spelling ++ rest)
    have htest := run_optionalUntil spelling (.inl rfl) htest hroom₂
      (optionTokens spelling next ++ symbol ")" :: (body.tokens spelling ++ rest))
    have hstart := run_loopStart spelling hstart hroom₁
      (optionTokens spelling test ++ symbol ";" ::
        (optionTokens spelling next ++ symbol ")" :: (body.tokens spelling ++ rest)))
    simp only [Stmt.tokens, List.cons_append, List.append_assoc]
    refine run_statement_iterate.trans ?_
    rw [run_bind_ok (run_expectOp rfl), run_bind_ok hstart, run_bind_ok (run_expectOp rfl),
      run_bind_ok htest, run_bind_ok (run_expectOp rfl), run_bind_ok hnext,
      run_bind_ok (run_expectOp rfl), run_bind_ok hbody]
    rfl
  | .ret value, h, room + 1, rest, hroom, _ => by
    have hvalue := run_returned spelling h (Nat.le_of_succ_le_succ hroom) rest
    rw [Stmt.tokens, List.cons_append, List.append_assoc]
    exact run_statement_ret.trans ((run_bind_ok hvalue).trans rfl)
  | .empty, _, room + 1, rest, _, _ => run_statement_empty

theorem reads_stmts : (body : List Stmt) → Stmt.ListPrintable body →
    ∀ {room fuel : Nat} {rest : List Token},
    Stmt.listNesting body ≤ room → (Stmt.listTokens spelling body).length ≤ fuel →
    (statementsFrom (statement room) fuel).run (Stmt.listTokens spelling body ++ rest) =
      .ok (body, rest)
  | [], _, room, fuel + 1, rest, _, _ => run_statementsFrom_close
  | first :: others, h, room, fuel, rest, hroom, hfuel => by
    obtain ⟨hroom, hrooms⟩ := Nat.max_le.mp hroom
    have hstarts := starts_tokens spelling first
      (Stmt.listTokens spelling others ++ rest)
    have hfirst : (statement room).run
        (first.tokens spelling ++ (Stmt.listTokens spelling others ++ rest)) =
          .ok (first, Stmt.listTokens spelling others ++ rest) :=
      reads_stmt first h.1 hroom (.inr (not_else_listTokens others rest))
    have hlength : 1 ≤ (first.tokens spelling).length := by
      refine List.length_pos_of_ne_nil fun hnil => ?_
      have hend := (starts_tokens spelling first []).1
      rw [hnil] at hend
      exact hend rfl
    rw [Stmt.listTokens, List.length_append] at hfuel
    obtain ⟨fuel, rfl⟩ : ∃ less, fuel = less + 1 := ⟨fuel - 1, by omega⟩
    have hothers : (statementsFrom (statement room) fuel).run
        (Stmt.listTokens spelling others ++ rest) = .ok (others, rest) :=
      reads_stmts others h.2 hrooms (by omega)
    rw [Stmt.listTokens, List.append_assoc, run_statementsFrom_next hstarts.1 hstarts.2.1 hfirst,
      run_bind_ok hothers]
    rfl

end

/-! ## Whole programs -/

/-- What reads a whole text reads any tokens that mean the same, up to their end. -/
theorem run_of_alike {α : Type} {reader : Reader α} {a : α}
    (hreader : ∀ limit, Follows Anywhere 1 1 limit reader reader) {tokens others : List Token}
    {last last' : Token} (halike : List.Forall₂ Token.Alike tokens others)
    (hlast : last.Alike last') (hrun : reader.run (tokens ++ [last]) = .ok (a, [last])) :
    reader.run (others ++ [last']) = .ok (a, [last']) := by
  have hrun : reader.run ((tokens ++ [last]) ++ []) = .ok (a, [last] ++ []) := by
    simpa using hrun
  obtain ⟨left, hleft, hrun⟩ := (hreader _).follows trivial (Nat.lt_succ_self _)
    (List.rel_append halike (.cons hlast .nil)) (Nat.le_refl _) (.inr ⟨rfl, rfl⟩) hrun
  rw [List.append_nil, List.append_nil] at hrun
  obtain ⟨other, _, -, hnil, rfl⟩ := List.forall₂_cons_left_iff.mp hleft
  obtain rfl := List.forall₂_nil_left_iff.mp hnil
  obtain ⟨used, hused, -⟩ := (hreader _).takes _ trivial (Nat.lt_succ_self _) hrun
  obtain ⟨-, rfl⟩ := List.append_singleton_inj.mp hused
  exact hrun

/-- Reading undoes writing. An expression is read back from its tokens, up to the end of the text; a
body is read back from the tokens of its statements in braces, as just these statements; and so is a
program whose text is cut into such tokens. The room that is needed is the nesting of what is
written. -/
theorem tokens_read_back (spelling : Spelling) :
    (∀ expr : Expr, expr.Printable → ∀ room, expr.nesting + 3 ≤ room → ∀ tokens last,
      List.Forall₂ Token.Alike (expr.tokens spelling) tokens → last.lexeme = endLexeme →
      (expression room).run (tokens ++ [last]) = .ok (expr, [last])) ∧
    ∀ body : List Stmt, Stmt.ListPrintable body → ∀ tokens last, List.Forall₂ Token.Alike
        (symbol "(" :: symbol ")" :: symbol "\x7b" :: Stmt.listTokens spelling body) tokens →
      last.lexeme = endLexeme →
      (∀ room, Stmt.listNesting body ≤ room →
        (bodyWithin room).run (tokens ++ [last]) = .ok (body, [last])) ∧
      (Stmt.listNesting body ≤ bodyRoom → ∀ source, tokenize source = .ok (tokens ++ [last]) →
        parse .expanded source = .ok body) := by
  have hend {last : Token} (hlast : last.lexeme = endLexeme) :
      Token.Alike ⟨.endOfText, "", .start⟩ last := hlast.symm
  refine ⟨fun expr h room hroom tokens last halike hlast => ?_,
    fun body h tokens last halike hlast => ?_⟩
  · refine run_of_alike (expression_follows room).1 halike (hend hlast) ?_
    exact (reads_expr expr h).run_expression hroom fun hkind => nomatch hkind
  · have hbody {room : Nat} (hroom : Stmt.listNesting body ≤ room) :
        (bodyWithin room).run (tokens ++ [last]) = .ok (body, [last]) := by
      refine run_of_alike (bodyWithin_follows room) halike (hend hlast) ?_
      have hstmts (rest : List Token) : (statementsFrom (statement room)
          ((Stmt.listTokens spelling body ++ rest).length + 1)).run
            (Stmt.listTokens spelling body ++ rest) = .ok (body, rest) :=
        reads_stmts body h hroom (by rw [List.length_append]; omega)
      exact run_bodyWithin.trans ((run_bind_ok (hstmts _)).trans rfl)
    refine ⟨fun room => hbody, fun hroom source hsource => ?_⟩
    exact parse_eq_ok_iff.mpr ⟨_, _, hsource, hbody hroom⟩

/-- A negated base keeps its sign in front of a power, and a text its quotes behind a condition. -/
theorem tokens_read_back_of_power :
    (expression 4).run [⟨.op, "-", ⟨1, 1⟩⟩, ⟨.name, "a", ⟨1, 2⟩⟩, ⟨.op, "**", ⟨1, 4⟩⟩,
        ⟨.name, "b", ⟨1, 7⟩⟩, ⟨.endOfText, "", ⟨1, 8⟩⟩] =
      .ok (.binary (.unary .negate (.read (.name "a"))) .pow (.read (.name "b")),
        [⟨.endOfText, "", ⟨1, 8⟩⟩]) ∧
    parse .expanded "() \x7b if (a) \x7b return b; \x7d const c = \"d\"; \x7d" =
      .ok [.cond (.read (.name "a")) (.block [.ret (some (.read (.name "b")))]) none,
        .declare .constName "c" (some (.literal (.str "d")))] := by
  obtain ⟨hexpr, hbody⟩ := tokens_read_back .exact
  refine ⟨hexpr (.binary (.unary .negate (.read (.name "a"))) .pow (.read (.name "b")))
    ⟨trivial, trivial⟩ 4 (by decide) [_, _, _, _] _ (alike_of_map rfl) rfl, ?_⟩
  have htokens : tokenize "() \x7b if (a) \x7b return b; \x7d const c = \"d\"; \x7d" =
      .ok ([⟨.op, "(", ⟨1, 1⟩⟩, ⟨.op, ")", ⟨1, 2⟩⟩, ⟨.op, "\x7b", ⟨1, 4⟩⟩,
        ⟨.keyword, "if", ⟨1, 6⟩⟩, ⟨.op, "(", ⟨1, 9⟩⟩, ⟨.name, "a", ⟨1, 10⟩⟩, ⟨.op, ")", ⟨1, 11⟩⟩,
        ⟨.op, "\x7b", ⟨1, 13⟩⟩, ⟨.keyword, "return", ⟨1, 15⟩⟩, ⟨.name, "b", ⟨1, 22⟩⟩,
        ⟨.op, ";", ⟨1, 23⟩⟩, ⟨.op, "\x7d", ⟨1, 25⟩⟩, ⟨.keyword, "const", ⟨1, 27⟩⟩,
        ⟨.name, "c", ⟨1, 33⟩⟩, ⟨.op, "=", ⟨1, 35⟩⟩, ⟨.text, "\"d\"", ⟨1, 37⟩⟩, ⟨.op, ";", ⟨1, 40⟩⟩,
        ⟨.op, "\x7d", ⟨1, 42⟩⟩] ++ [⟨.endOfText, "", ⟨1, 43⟩⟩]) := by cbv
  refine (hbody _ ?_ _ _ ?_ rfl).2 ?_ _ htokens
  · exact ⟨⟨trivial, rfl, trivial, trivial⟩, ⟨by simp, trivial⟩, trivial⟩
  · exact alike_of_map rfl
  · decide

end Canvasflow.Program.Reader
