import Canvasflow.Proofs.Program.Rendering
import Canvasflow.Proofs.Program.Steps

/-!
# Expressions are read back

The tokens of an expression are read as that expression by the reader of any level, with parentheses
around it where its own level is below that one. Levels that group to the left are read behind their
first operand, so `ReadsBack` also says how far such a reader has come when it has the expression.
-/

namespace Canvasflow.Program.Reader

variable {spelling : Spelling} {expr : Expr} {tokens rest : List Token} {room level fuel : Nat}

/-! ## How expressions start -/

/-- The operators that open a primary expression. -/
def openers : List String := ["(", "[", "\x7b"]

/-- The operators that stand before an operand. -/
def prefixes : List String := ["!", "-", "+", "++", "--"]

/-- The tokens start an expression of the level: with an operator before an operand only up to the
level of these. -/
def Opens (level : Nat) (tokens : List Token) : Prop :=
  ∃ kind value rest, tokens = ⟨kind, value, .start⟩ :: rest ∧ kind ≠ .endOfText ∧
    (kind = .op → value ∈ openers ∨ level ≤ 10 ∧ value ∈ prefixes)

theorem Opens.append (h : Opens level tokens) (rest : List Token) :
    Opens level (tokens ++ rest) := by
  obtain ⟨kind, value, others, rfl, hkind, hop⟩ := h
  exact ⟨kind, value, others ++ rest, rfl, hkind, hop⟩

theorem Opens.mono {other : Nat} (h : Opens level tokens) (hle : other ≤ level) :
    Opens other tokens := by
  obtain ⟨kind, value, others, rfl, hkind, hop⟩ := h
  exact ⟨kind, value, others, rfl, hkind, fun h => (hop h).imp_right (And.imp_left hle.trans)⟩

theorem Opens.enclosed {needed : Nat} (h : Opens level tokens) :
    Opens needed (enclosed needed level tokens) := by
  unfold Program.enclosed
  split_ifs with hlevel
  · exact ⟨.op, "(", _, rfl, by decide, fun _ => .inl (by decide)⟩
  · exact h.mono (Nat.not_lt.mp hlevel)

/-- What closes a list starts no expression. -/
theorem Opens.not_isToken {value : String} (h : Opens level tokens)
    (hvalue : value ∉ openers ++ prefixes) (rest : List Token) :
    isToken .op value (firstOf (tokens ++ rest)) = false := by
  obtain ⟨kind, text, others, rfl, -, hop⟩ := h
  by_contra htoken
  simp only [List.cons_append, firstOf, List.head?_cons, Option.getD_some, isToken,
    Bool.not_eq_false, Bool.and_eq_true, beq_iff_eq] at htoken
  obtain ⟨rfl, rfl⟩ := htoken
  exact hvalue (List.mem_append.mpr ((hop rfl).imp_right And.right))

theorem Opens.kind_ne (h : Opens level tokens) (rest : List Token) :
    (firstOf (tokens ++ rest)).kind ≠ .endOfText := by
  obtain ⟨kind, text, others, rfl, hkind, -⟩ := h
  exact hkind

theorem Opens.unprefixed (h : Opens level tokens) (hlevel : 10 < level) : Unprefixed tokens := by
  obtain ⟨kind, value, others, rfl, -, hop⟩ := h
  intro hkind
  have hnone : ∀ value ∈ openers,
      Entries.find? value unaryOps = none ∧ Entries.find? value updateOps = none := by decide
  exact hnone _ ((hop hkind).resolve_right fun h => Nat.not_le.mpr hlevel h.1)

theorem level_le_operandLevels (op : BinaryOp) : op.level ≤ op.operandLevels.1 := by
  cases op <;> decide

mutual

theorem opens_tokens (spelling : Spelling) :
    (expr : Expr) → Opens expr.level (expr.tokens spelling)
  | .literal value => by
    rcases value with _ | (_ | _) | _ | _ <;> exact ⟨_, _, [], rfl, by decide, nofun⟩
  | .read place => opens_place spelling place
  | .call callee _ => (opens_tokens spelling callee).enclosed.append _
  | .unary op _ =>
    ⟨_, _, _, rfl, by decide, fun _ => .inr ⟨Nat.le_refl _, by cases op <;> decide⟩⟩
  | .binary left op _ =>
    ((opens_tokens spelling left).enclosed.append _).mono (level_le_operandLevels op)
  | .logical left _ _ => (opens_tokens spelling left).enclosed.append _
  | .conditional test _ _ =>
    ((opens_tokens spelling test).enclosed.append _).mono (by simp [Expr.level])
  | .object _ => ⟨_, _, _, rfl, by decide, fun _ => .inl (by decide)⟩
  | .array _ => ⟨_, _, _, rfl, by decide, fun _ => .inl (by decide)⟩
  | .assign target _ _ => ((opens_place spelling target).append _).mono (Nat.zero_le _)
  | .update _ op true =>
    ⟨_, _, _, rfl, by decide, fun _ => .inr ⟨Nat.le_refl _, by cases op <;> decide⟩⟩
  | .update target _ false =>
    ((opens_place spelling target).append _).mono (by cases target <;> simp [Expr.level])

theorem opens_place (spelling : Spelling) :
    (place : Place) → Opens (Expr.read place).level (place.tokens spelling)
  | .name _ => ⟨_, _, _, rfl, by decide, nofun⟩
  | .member object _ _ => (opens_tokens spelling object).enclosed.append _
  | .index object _ _ => (opens_tokens spelling object).enclosed.append _

end

/-! ## Reading at any level -/

/-- The tokens of the expression are read as the expression, by the reader of any level, and a level
that groups to the left goes on behind it. -/
structure ReadsBack (spelling : Spelling) (expr : Expr) : Prop where
  reads (level : Nat) {room : Nat} {rest : List Token} (hlevel : level ≤ 13)
    (hroom : enclosedNesting level expr.level expr.nesting ≤ room) (hrest : Stops level rest) :
    (levelReader room level).run (enclosed level expr.level (expr.tokens spelling) ++ rest) =
      .ok (expr, rest)
  goes (level : Nat) {room : Nat} {rest : List Token} (hlevel : level ∈ loopLevels)
    (hroom : enclosedNesting level expr.level expr.nesting ≤ room)
    (hrest : Stops (level + 1) rest) :
    ∃ fuel, rest.length < fuel ∧
      (levelReader room level).run (enclosed level expr.level (expr.tokens spelling) ++ rest) =
        (going room level fuel expr).run rest

namespace ReadsBack

/-- An expression that is read at its own level is read at every level. -/
theorem reads_of_own
    (h : ∀ {room rest}, expr.nesting ≤ room → Stops expr.level rest →
      (levelReader room expr.level).run (expr.tokens spelling ++ rest) = .ok (expr, rest))
    (level : Nat) {room : Nat} {rest : List Token} (hlevel : level ≤ 13)
    (hroom : enclosedNesting level expr.level expr.nesting ≤ room) (hrest : Stops level rest) :
    (levelReader room level).run (enclosed level expr.level (expr.tokens spelling) ++ rest) =
      .ok (expr, rest) := by
  have hopens := opens_tokens spelling expr
  have hclimbs {room level : Nat} {rest : List Token} (hroom : expr.nesting ≤ room)
      (hle : level ≤ expr.level) (hrest : Stops level rest) :
      (levelReader room level).run (expr.tokens spelling ++ rest) = .ok (expr, rest) :=
    run_levelReader_of_le hle (hopens.append rest).unprefixed (h hroom (hrest.mono hle)) hrest
  unfold enclosed
  unfold enclosedNesting at hroom
  split_ifs at hroom ⊢ with hbelow
  · obtain ⟨room, rfl⟩ := Nat.exists_eq_add_of_le' (Nat.le_of_add_left_le hroom)
    have hclose : Stops 0 (symbol ")" :: rest) := .of_none (by decide)
    have hinside := hclimbs (Nat.le_of_add_le_add_right hroom) (Nat.zero_le _) hclose
    have hprimary : (levelReader (room + 3) 13).run
        (symbol "(" :: (expr.tokens spelling ++ symbol ")" :: rest)) = .ok (expr, rest) :=
      run_primary_enclosed.trans ((run_bind_ok hinside).trans rfl)
    rw [List.cons_append, List.append_assoc]
    exact run_levelReader_of_le hlevel (fun _ => .of_none (by decide) (by decide)) hprimary hrest
  · exact hclimbs hroom (Nat.not_lt.mp hbelow) hrest

/-- The levels that go on are those of other expressions, which the next level reads, and that of
the expression itself. -/
theorem of_levels
    (hreads : ∀ level {room rest}, level ≤ 13 →
      enclosedNesting level expr.level expr.nesting ≤ room → Stops level rest →
      (levelReader room level).run (enclosed level expr.level (expr.tokens spelling) ++ rest) =
        .ok (expr, rest))
    (hgoes : expr.level ∈ loopLevels → ∀ {room rest}, expr.nesting ≤ room →
      Stops (expr.level + 1) rest → ∃ fuel, rest.length < fuel ∧
        (levelReader room expr.level).run (expr.tokens spelling ++ rest) =
          (going room expr.level fuel expr).run rest) : ReadsBack spelling expr where
  reads := hreads
  goes level room rest hlevel hroom hrest := by
    by_cases heq : level = expr.level
    · subst heq
      rw [enclosed_self]
      rw [enclosedNesting_self] at hroom
      exact hgoes hlevel hroom hrest
    · have henclosed : enclosed (level + 1) expr.level (expr.tokens spelling) =
          enclosed level expr.level (expr.tokens spelling) := by
        unfold enclosed
        split_ifs <;> first | rfl | omega
      have hnesting : enclosedNesting (level + 1) expr.level expr.nesting =
          enclosedNesting level expr.level expr.nesting := by
        unfold enclosedNesting
        split_ifs <;> first | rfl | omega
      have hnext : ∀ level ∈ loopLevels, level + 1 ≤ 13 := by decide
      have h := hreads (level + 1) (hnext level hlevel) (hnesting ▸ hroom) hrest
      rw [henclosed] at h
      exact run_levelReader_going hlevel h (by simp)

/-- An expression of a level that does not group to the left. -/
theorem of_own (level : Nat) (hlevel : expr.level = level) (hloop : level ∉ loopLevels)
    (h : ∀ {room rest}, expr.nesting ≤ room → Stops level rest →
      (levelReader room level).run (expr.tokens spelling ++ rest) = .ok (expr, rest)) :
    ReadsBack spelling expr := by
  subst hlevel
  exact of_levels (reads_of_own h) fun hlevel => absurd hlevel hloop

/-- An expression of a level that groups to the left. -/
theorem of_going (level : Nat) (hlevel : expr.level = level)
    (h : ∀ {room rest}, expr.nesting ≤ room → Stops (level + 1) rest →
      ∃ fuel, rest.length < fuel ∧
        (levelReader room level).run (expr.tokens spelling ++ rest) =
          (going room level fuel expr).run rest) : ReadsBack spelling expr := by
  subst hlevel
  refine of_levels (reads_of_own fun hroom hrest => ?_) fun _ => h
  obtain ⟨fuel, hfuel, hrun⟩ := h hroom (hrest.mono (Nat.le_succ _))
  rw [hrun, run_going_stops hrest hfuel]

/-- An expression inside parentheses, brackets or braces. -/
theorem run_expression (h : ReadsBack spelling expr) (hroom : expr.nesting + 3 ≤ room)
    (hrest : Stops 0 rest) :
    (expression room).run (expr.tokens spelling ++ rest) = .ok (expr, rest) := by
  obtain ⟨room, rfl⟩ := Nat.exists_eq_add_of_le' (Nat.le_of_add_left_le hroom)
  exact h.reads 0 (Nat.zero_le _) (Nat.le_of_add_le_add_right hroom) hrest

end ReadsBack

/-! ## Lists -/

/-- The tokens of parts with commas between them, and of the operator that closes their list. -/
def separatedTokens {α : Type} (tokens : α → List Token) (close : String) : List α → List Token
  | [] => [symbol close]
  | first :: rest =>
    tokens first ++
      ((if rest.isEmpty then [] else [symbol ","]) ++ separatedTokens tokens close rest)

theorem listTokens_eq (spelling : Spelling) (close : String) (items : List Expr) :
    Expr.listTokens spelling close items =
      separatedTokens (Expr.tokens spelling) close items := by
  induction items with
  | nil => rfl
  | cons first items ih => rw [Expr.listTokens, separatedTokens, ih]

theorem entryTokens_eq (spelling : Spelling) (parts : List Entry) :
    Entry.listTokens spelling parts = separatedTokens (Entry.tokens spelling) "\x7d" parts := by
  induction parts with
  | nil => rfl
  | cons first parts ih => rw [Entry.listTokens, separatedTokens, ih]

/-- Parts that are read one by one are read as a list. -/
theorem run_separated {α : Type} {part : Reader α} {tokens : α → List Token} {close : String}
    (hclose : close ∈ closers) {parts : List α}
    (hparts : ∀ a ∈ parts, ∀ {rest}, Stops 0 rest → part.run (tokens a ++ rest) = .ok (a, rest))
    (hopens : ∀ a ∈ parts, ∀ rest, isToken .op close (firstOf (tokens a ++ rest)) = false)
    (hfuel : (separatedTokens tokens close parts).length ≤ fuel) :
    (separated part close fuel).run (separatedTokens tokens close parts ++ rest) =
      .ok (parts, rest) := by
  induction parts generalizing fuel with
  | nil =>
    obtain ⟨fuel, rfl⟩ := Nat.exists_eq_add_of_le' hfuel
    exact run_separated_close hclose
  | cons a parts ih =>
    obtain ⟨ha, hparts⟩ := List.forall_mem_cons.mp hparts
    obtain ⟨hopen, hopens⟩ := List.forall_mem_cons.mp hopens
    have hlength : 1 ≤ (tokens a).length := by
      refine List.length_pos_of_ne_nil fun hnil => ?_
      have hnone := hopen [symbol close]
      simp [hnil, firstOf, isToken] at hnone
    rw [separatedTokens, List.length_append] at hfuel
    rw [separatedTokens, List.append_assoc]
    cases parts with
    | nil =>
      obtain ⟨fuel, rfl⟩ :=
        Nat.exists_eq_add_of_le' (Nat.le_trans (Nat.add_le_add_right hlength 1) hfuel)
      have hstops : Stops 0 (symbol close :: rest) := by
        obtain rfl | rfl | rfl := mem_closers.mp hclose <;> exact .of_none (by decide)
      exact run_separated_last hclose (hopen _) (ha hstops)
    | cons next parts =>
      obtain ⟨fuel, rfl⟩ :=
        Nat.exists_eq_add_of_le' (Nat.le_trans (Nat.le_add_right_of_le hlength) hfuel)
      have hfuel : (separatedTokens tokens close (next :: parts)).length ≤ fuel := by
        rw [List.length_append] at hfuel
        simp only [List.isEmpty_cons, Bool.false_eq_true, if_false, List.length_singleton] at hfuel
        omega
      refine (run_separated_next hclose (hopen _) (ha (.of_none (by decide)))).trans ?_
      exact (run_bind_ok (ih hparts hopens hfuel)).trans rfl

theorem nesting_le_of_mem {item : Expr} {items : List Expr} (h : item ∈ items) :
    item.nesting + 3 ≤ Expr.listNesting items := by
  induction items with
  | nil => cases h
  | cons first items ih =>
    obtain rfl | h := List.mem_cons.mp h
    · exact Nat.le_max_left _ _
    · exact Nat.le_trans (ih h) (Nat.le_max_right _ _)

/-- The bound on a list is the number of tokens that are left. -/
theorem run_items {close : String} (hclose : close = ")" ∨ close = "]") {items : List Expr}
    (hitems : ∀ item ∈ items, ReadsBack spelling item) (hroom : Expr.listNesting items ≤ room)
    (rest : List Token) :
    (itemsUntil (expression room) close
      ((Expr.listTokens spelling close items ++ rest).length + 1)).run
        (Expr.listTokens spelling close items ++ rest) = .ok (items, rest) := by
  have hclosers : close ∈ closers ∧ close ∉ openers ++ prefixes := by
    obtain rfl | rfl := hclose <;> decide
  rw [itemsUntil_eq, listTokens_eq]
  refine run_separated hclosers.1 (fun item hmem rest hrest => ?_)
    (fun item _ rest => (opens_tokens spelling item).not_isToken hclosers.2 rest)
    (by rw [List.length_append]; omega)
  exact (hitems item hmem).run_expression (Nat.le_trans (nesting_le_of_mem hmem) hroom) hrest

/-- The value of a part of a record. -/
def entryValue : Entry → Expr
  | .pair _ value | .spread value => value

theorem run_entry {part : Entry} (h : ReadsBack spelling (entryValue part))
    (hroom : (entryValue part).nesting + 3 ≤ room) (hrest : Stops 0 rest) :
    (entry (expression room)).run (part.tokens spelling ++ rest) = .ok (part, rest) := by
  cases part with
  | pair key value =>
    refine run_entry_pair.trans ?_
    rw [spelling.text_read]
    exact (run_bind_ok (h.run_expression hroom hrest)).trans rfl
  | spread value =>
    exact run_entry_spread.trans ((run_bind_ok (h.run_expression hroom hrest)).trans rfl)

theorem entryNesting_le_of_mem {part : Entry} {parts : List Entry} (h : part ∈ parts) :
    (entryValue part).nesting + 3 ≤ Entry.listNesting parts := by
  induction parts with
  | nil => cases h
  | cons first parts ih =>
    have hlist : Entry.listNesting (first :: parts) =
        max ((entryValue first).nesting + 3) (Entry.listNesting parts) := by cases first <;> rfl
    rw [hlist]
    obtain rfl | h := List.mem_cons.mp h
    · exact Nat.le_max_left _ _
    · exact Nat.le_trans (ih h) (Nat.le_max_right _ _)

theorem run_entries {parts : List Entry}
    (hparts : ∀ part ∈ parts, ReadsBack spelling (entryValue part))
    (hroom : Entry.listNesting parts ≤ room) (rest : List Token) :
    (entriesFrom (expression room) ((Entry.listTokens spelling parts ++ rest).length + 1)).run
      (Entry.listTokens spelling parts ++ rest) = .ok (parts, rest) := by
  rw [entriesFrom_eq, entryTokens_eq]
  refine run_separated (by decide) (fun part hmem rest hrest => ?_) (fun part _ rest => ?_)
    (by rw [List.length_append]; omega)
  · exact run_entry (hparts part hmem) (Nat.le_trans (entryNesting_le_of_mem hmem) hroom) hrest
  · cases part <;> rfl

/-! ## Every form of expression -/

namespace ReadsBack

theorem literal (value : Literal) (h : (Expr.literal value).Printable) :
    ReadsBack spelling (.literal value) := by
  refine of_own 13 rfl (by decide) fun _ _ => ?_
  rcases value with _ | (_ | _) | x | text
  case num => exact run_primary_number.trans (by rw [spelling.numeral_read x h]; rfl)
  case str => exact run_primary_text.trans (by rw [spelling.text_read]; rfl)
  all_goals rfl

theorem name (name : String) : ReadsBack spelling (.read (.name name)) :=
  of_own 13 rfl (by decide) fun _ _ => rfl

theorem object {entries : List Entry}
    (h : ∀ part ∈ entries, ReadsBack spelling (entryValue part)) :
    ReadsBack spelling (.object entries) := by
  refine of_own 13 rfl (by decide) fun {room rest} hroom _ => ?_
  exact run_primary_object.trans ((run_bind_ok (run_entries h hroom rest)).trans rfl)

theorem array {items : List Expr} (h : ∀ item ∈ items, ReadsBack spelling item) :
    ReadsBack spelling (.array items) := by
  refine of_own 13 rfl (by decide) fun {room rest} hroom _ => ?_
  exact run_primary_array.trans ((run_bind_ok (run_items (.inr rfl) h hroom rest)).trans rfl)

/-- No operator joins more tightly than accesses and calls. -/
theorem stops_primary (rest : List Token) : Stops 13 rest := by
  intro _ k hk
  have hjoins : ∀ row ∈ joins, row.2 < 13 := by decide
  exact hjoins _ (Entries.mem_of_find? hk)

/-- A level that groups to the left goes on with the operator behind its first operand. -/
theorem goes_behind (h : ReadsBack spelling expr) (level : Nat) (hlevel : level ∈ loopLevels)
    (hroom : enclosedNesting level expr.level expr.nesting ≤ room) {token : Token}
    {others : List Token} (hstops : Stops (level + 1) (token :: others)) :
    ∃ fuel, others.length < fuel ∧
      (levelReader room level).run
        (enclosed level expr.level (expr.tokens spelling) ++ token :: others) =
          (going room level (fuel + 1) expr).run (token :: others) := by
  obtain ⟨fuel, hfuel, hrun⟩ := h.goes level hlevel hroom hstops
  obtain ⟨less, rfl⟩ := Nat.exists_eq_add_of_lt hfuel
  refine ⟨(token :: others).length + less, ?_, hrun⟩
  rw [List.length_cons]
  omega

theorem member {object : Expr} (h : ReadsBack spelling object) (name : String) (optional : Bool) :
    ReadsBack spelling (.read (.member object name optional)) := by
  refine of_going 12 rfl fun {room rest} hroom _ => ?_
  obtain ⟨fuel, hfuel, hrun⟩ := h.goes_behind 12 (by decide) hroom
    (stops_primary (symbol (if optional then "?." else ".") :: named name :: rest))
  refine ⟨fuel, Nat.lt_of_succ_lt hfuel, ?_⟩
  simp only [Expr.tokens, Place.tokens, List.append_assoc, List.cons_append, List.nil_append]
  rw [hrun]
  cases optional <;> rfl

theorem run_bracketIndex {index : Expr} (h : ReadsBack spelling index)
    (hroom : index.nesting + 3 ≤ room) (rest : List Token) :
    (bracketIndex (expression room)).run (index.tokens spelling ++ symbol "]" :: rest) =
      .ok (index, rest) := by
  have hindex : (expression room).run (index.tokens spelling ++ symbol "]" :: rest) =
      .ok (index, symbol "]" :: rest) := h.run_expression hroom (.of_none (by decide))
  rw [bracketIndex, run_bind_ok hindex]
  rfl

theorem index {object index : Expr} (h : ReadsBack spelling object)
    (hindex : ReadsBack spelling index) (optional : Bool) :
    ReadsBack spelling (.read (.index object index optional)) := by
  refine of_going 12 rfl fun {room rest} hnesting _ => ?_
  obtain ⟨hroom, hinside⟩ := Nat.max_le.mp hnesting
  have hbracket := hindex.run_bracketIndex hinside rest
  simp only [Expr.tokens, Place.tokens, List.append_assoc, List.cons_append, List.nil_append]
  cases optional with
  | false =>
    obtain ⟨fuel, hfuel, hrun⟩ := h.goes_behind 12 (by decide) hroom
      (stops_primary (symbol "[" :: (index.tokens spelling ++ symbol "]" :: rest)))
    refine ⟨fuel, ?_, hrun.trans (run_suffixesFrom_index.trans (run_bind_ok hbracket))⟩
    simp only [List.length_append, List.length_cons] at hfuel
    omega
  | true =>
    obtain ⟨fuel, hfuel, hrun⟩ := h.goes_behind 12 (by decide) hroom
      (stops_primary (symbol "?." :: symbol "[" :: (index.tokens spelling ++ symbol "]" :: rest)))
    refine ⟨fuel, ?_, hrun.trans (run_suffixesFrom_optionalIndex.trans (run_bind_ok hbracket))⟩
    simp only [List.length_append, List.length_cons] at hfuel
    omega

theorem call {callee : Expr} {args : List Expr} (h : ReadsBack spelling callee)
    (hargs : ∀ arg ∈ args, ReadsBack spelling arg) : ReadsBack spelling (.call callee args) := by
  refine of_going 12 rfl fun {room rest} hroom _ => ?_
  obtain ⟨hroom, hinside⟩ := Nat.max_le.mp hroom
  have hitems := run_items (.inl rfl) hargs hinside rest
  obtain ⟨fuel, hfuel, hrun⟩ := h.goes_behind 12 (by decide) hroom
    (stops_primary (symbol "(" :: (Expr.listTokens spelling ")" args ++ rest)))
  simp only [Expr.tokens, List.append_assoc, List.cons_append]
  refine ⟨fuel, ?_, hrun.trans (run_suffixesFrom_call.trans (run_bind_ok hitems))⟩
  rw [List.length_append] at hfuel
  omega

theorem unary {operand : Expr} (op : UnaryOp) (h : ReadsBack spelling operand) :
    ReadsBack spelling (.unary op operand) := by
  refine of_own 10 rfl (by decide) fun {room rest} hroom hrest => ?_
  obtain ⟨room, rfl⟩ := Nat.exists_eq_add_of_le' (Nat.le_of_add_left_le hroom)
  have hoperand := h.reads 10 (by decide) (Nat.le_of_add_le_add_right hroom) hrest
  exact (run_operand_unary op).trans ((run_bind_ok hoperand).trans rfl)

/-- The operators that group to the left, at their levels. -/
theorem run_going_binary {op : BinaryOp} (hop : op ≠ .pow) :
    (going room op.level (fuel + 1) expr).run (symbol op.symbol :: rest) =
      (do going room op.level fuel (.binary expr op (← levelReader room (op.level + 1)))).run
        rest := by
  cases op <;> first | rfl | exact absurd rfl hop

theorem run_going_logical (op : LogicalOp) :
    (going room op.level (fuel + 1) expr).run (symbol op.symbol :: rest) =
      (do going room op.level fuel (.logical expr op (← levelReader room (op.level + 1)))).run
        rest := by
  cases op <;> rfl

theorem binary {left right : Expr} {op : BinaryOp} (hop : op ≠ .pow)
    (hleft : ReadsBack spelling left) (hright : ReadsBack spelling right) :
    ReadsBack spelling (.binary left op right) := by
  have hlevels : op.operandLevels = (op.level, op.level + 1) := if_neg hop
  have hloop : op.level ∈ loopLevels ∧ op.level + 1 ≤ 13 := by
    revert hop
    cases op <;> decide
  refine of_going op.level rfl fun {room rest} hroom hrest => ?_
  have hstops (others : List Token) : Stops (op.level + 1) (symbol op.symbol :: others) :=
    .of_some (by cases op <;> rfl) (Nat.lt_succ_self _)
  simp only [Expr.nesting, hlevels, if_neg hop, Nat.add_zero, Nat.max_le] at hroom
  obtain ⟨fuel, hfuel, hrun⟩ := hleft.goes_behind op.level hloop.1 hroom.1
    (hstops (enclosed (op.level + 1) right.level (right.tokens spelling) ++ rest))
  have hoperand := hright.reads (op.level + 1) hloop.2 hroom.2 hrest
  simp only [Expr.tokens, hlevels, List.append_assoc, List.cons_append]
  refine ⟨fuel, ?_, hrun.trans ((run_going_binary hop).trans (run_bind_ok hoperand))⟩
  rw [List.length_append] at hfuel
  omega

theorem logical {left right : Expr} (op : LogicalOp) (hleft : ReadsBack spelling left)
    (hright : ReadsBack spelling right) : ReadsBack spelling (.logical left op right) := by
  have hloop : op.level ∈ loopLevels ∧ op.level + 1 ≤ 13 := by cases op <;> decide
  refine of_going op.level rfl fun {room rest} hroom hrest => ?_
  have hstops (others : List Token) : Stops (op.level + 1) (symbol op.symbol :: others) :=
    .of_some (by cases op <;> rfl) (Nat.lt_succ_self _)
  obtain ⟨hroom, hroom'⟩ := Nat.max_le.mp hroom
  obtain ⟨fuel, hfuel, hrun⟩ := hleft.goes_behind op.level hloop.1 hroom
    (hstops (enclosed (op.level + 1) right.level (right.tokens spelling) ++ rest))
  have hoperand := hright.reads (op.level + 1) hloop.2 hroom' hrest
  simp only [Expr.tokens, List.append_assoc, List.cons_append]
  refine ⟨fuel, ?_, hrun.trans ((run_going_logical op).trans (run_bind_ok hoperand))⟩
  rw [List.length_append] at hfuel
  omega

theorem pow {left right : Expr} (hleft : ReadsBack spelling left)
    (hright : ReadsBack spelling right) : ReadsBack spelling (.binary left .pow right) := by
  refine of_own 9 rfl (by decide) fun {room rest} hnesting hrest => ?_
  obtain ⟨hroom, hroom'⟩ := Nat.max_le.mp hnesting
  obtain ⟨room, rfl⟩ : ∃ less, room = less + 1 :=
    Nat.exists_eq_add_of_le' (Nat.le_of_add_left_le hroom')
  have hstops (others : List Token) : Stops 10 (symbol "**" :: others) :=
    .of_some (by decide) (Nat.lt_succ_self 9)
  have hbase : (operand (room + 2)).run (enclosed 10 left.level (left.tokens spelling) ++
      symbol "**" :: (enclosed 9 right.level (right.tokens spelling) ++ rest)) =
      .ok (left, symbol "**" :: (enclosed 9 right.level (right.tokens spelling) ++ rest)) :=
    hleft.reads 10 (by decide) hroom (hstops _)
  have hpower : (power (room + 2)).run (enclosed 9 right.level (right.tokens spelling) ++ rest) =
      .ok (right, rest) :=
    hright.reads 9 (by decide) (Nat.le_of_add_le_add_right hroom') hrest
  have htokens : (Expr.binary left .pow right).tokens spelling ++ rest =
      enclosed 10 left.level (left.tokens spelling) ++
        symbol "**" :: (enclosed 9 right.level (right.tokens spelling) ++ rest) := by
    simp [Expr.tokens, BinaryOp.operandLevels, BinaryOp.symbol]
  rw [htokens]
  change (power (room + 3)).run _ = _
  rw [power, run_bind_ok hbase, acceptOp, run_accept_then rfl, run_bind_ok hpower]
  rfl

/-- An assignment starts no lower than at its level. -/
theorem stops_zero (h : Stops 1 rest) : Stops 0 rest := by
  intro hkind k hk
  have hjoins : ∀ row ∈ joins, 1 ≤ row.2 := by decide
  exact absurd (h hkind k hk) (Nat.not_lt.mpr (hjoins _ (Entries.mem_of_find? hk)))

theorem conditional {test yes no : Expr} (htest : ReadsBack spelling test)
    (hyes : ReadsBack spelling yes) (hno : ReadsBack spelling no) :
    ReadsBack spelling (.conditional test yes no) := by
  refine of_own 1 rfl (by decide) fun {room rest} hnesting hrest => ?_
  obtain ⟨hroom, hbranches⟩ := Nat.max_le.mp hnesting
  obtain ⟨hroom₁, hroom₂⟩ := Nat.max_le.mp hbranches
  obtain ⟨room, rfl⟩ : ∃ less, room = less + 1 :=
    Nat.exists_eq_add_of_le' (Nat.le_of_add_left_le hroom₁)
  have hstops (others : List Token) : Stops 2 (symbol "?" :: others) :=
    .of_some (by decide) (Nat.lt_succ_self 1)
  have hstops' (others : List Token) : Stops 0 (symbol ":" :: others) := .of_none (by decide)
  have htest : (operators (power (room + 3))).run (enclosed 2 test.level (test.tokens spelling) ++
      symbol "?" :: (yes.tokens spelling ++ symbol ":" :: (no.tokens spelling ++ rest))) =
      .ok (test,
        symbol "?" :: (yes.tokens spelling ++ symbol ":" :: (no.tokens spelling ++ rest))) :=
    htest.reads 2 (by decide) hroom (hstops _)
  have hyes : (Reader.expression (room + 3)).run
      (yes.tokens spelling ++ symbol ":" :: (no.tokens spelling ++ rest)) =
      .ok (yes, symbol ":" :: (no.tokens spelling ++ rest)) :=
    hyes.reads 0 (by decide) (Nat.le_of_add_le_add_right hroom₁) (hstops' _)
  have hno : (Reader.expression (room + 3)).run (no.tokens spelling ++ rest) = .ok (no, rest) :=
    hno.reads 0 (by decide) (Nat.le_of_add_le_add_right hroom₂) (stops_zero hrest)
  have hassign : (acceptFrom assignOps).run rest = .ok (none, rest) :=
    run_acceptFrom_stops hrest (by decide)
  simp only [Expr.tokens, List.append_assoc, List.cons_append]
  change (Reader.expression (room + 4)).run _ = _
  rw [Reader.expression, run_bind_ok htest, acceptOp, run_accept_then rfl, run_bind_ok hyes,
    run_bind_ok (run_expectOp rfl), run_bind_ok hno, run_bind_ok rfl, run_bind_ok run_current,
    run_bind_ok hassign]
  rfl

/-- An expression that needs no parentheses. -/
theorem reads_of_le (h : ReadsBack spelling expr) (hlevel : level ≤ 13) (hle : level ≤ expr.level)
    (hroom : expr.nesting ≤ room) (hrest : Stops level rest) :
    (levelReader room level).run (expr.tokens spelling ++ rest) = .ok (expr, rest) := by
  have hnesting : enclosedNesting level expr.level expr.nesting ≤ room := by
    rwa [enclosedNesting, if_neg (Nat.not_lt.mpr hle)]
  have hreads := h.reads level hlevel hnesting hrest
  rwa [enclosed, if_neg (Nat.not_lt.mpr hle)] at hreads

theorem le_level_place (target : Place) : 12 ≤ (Expr.read target).level := by
  cases target <;> simp [Expr.level]

theorem assign {target : Place} {op : Option BinaryOp} {value : Expr}
    (htarget : ReadsBack spelling (.read target)) (hop : op ∈ assignOps.map Prod.snd)
    (hvalue : ReadsBack spelling value) : ReadsBack spelling (.assign target op value) := by
  refine of_own 0 rfl (by decide) fun {room rest} hnesting hrest => ?_
  obtain ⟨hroom, hroom'⟩ := Nat.max_le.mp hnesting
  obtain ⟨room, rfl⟩ : ∃ less, room = less + 1 :=
    Nat.exists_eq_add_of_le' (Nat.le_of_add_left_le hroom')
  have htable : ∀ op ∈ assignOps.map Prod.snd, assignSymbol op ≠ "?" ∧
      Entries.find? (assignSymbol op) assignOps = some op ∧
      Entries.find? (assignSymbol op) joins = some 1 := by decide
  obtain ⟨hchoice, hassign, hjoins⟩ := htable op hop
  have hplace : (operators (power (room + 3))).run ((Expr.read target).tokens spelling ++
      symbol (assignSymbol op) :: (value.tokens spelling ++ rest)) =
      .ok (.read target, symbol (assignSymbol op) :: (value.tokens spelling ++ rest)) :=
    htarget.reads_of_le (by decide) (Nat.le_trans (by decide) (le_level_place target)) hroom
      (.of_some hjoins (Nat.lt_succ_self 1))
  have hvalue : (Reader.expression (room + 3)).run (value.tokens spelling ++ rest) =
      .ok (value, rest) :=
    hvalue.reads 0 (by decide) (Nat.le_of_add_le_add_right hroom') hrest
  simp only [Expr.tokens, List.append_assoc, List.cons_append] at hplace ⊢
  change (Reader.expression (room + 4)).run _ = _
  rw [Reader.expression, run_bind_ok hplace, acceptOp,
    run_accept_else (by simpa [isToken, firstOf] using hchoice), run_bind_ok rfl,
    run_bind_ok run_current, run_bind_ok (run_acceptFrom_taken rfl hassign)]
  exact (run_bind_ok hvalue).trans rfl

theorem stepBefore {target : Place} (op : UpdateOp) (h : ReadsBack spelling (.read target)) :
    ReadsBack spelling (.update target op true) := by
  refine of_own 10 rfl (by decide) fun {room rest} hnesting hrest => ?_
  obtain ⟨room, rfl⟩ : ∃ less, room = less + 1 :=
    Nat.exists_eq_add_of_le' (Nat.le_of_add_left_le hnesting)
  have hplace : (operand (room + 1)).run ((Expr.read target).tokens spelling ++ rest) =
      .ok (.read target, rest) :=
    h.reads_of_le (by decide) (Nat.le_trans (by decide) (le_level_place target))
      (Nat.le_of_add_le_add_right hnesting) hrest
  exact (run_operand_update op).trans ((run_bind_ok hplace).trans rfl)

theorem stepBehind {target : Place} (op : UpdateOp) (h : ReadsBack spelling (.read target)) :
    ReadsBack spelling (.update target op false) := by
  refine of_own 11 rfl (by decide) fun {room rest} hnesting hrest => ?_
  have hstops : Stops 12 (symbol op.symbol :: rest) :=
    .of_some (by cases op <;> rfl) (Nat.lt_succ_self 11)
  have hplace : (accessed (Reader.expression room)).run
      ((Expr.read target).tokens spelling ++ symbol op.symbol :: rest) =
      .ok (.read target, symbol op.symbol :: rest) :=
    h.reads_of_le (by decide) (le_level_place target) hnesting hstops
  simp only [Expr.tokens, List.append_assoc, List.cons_append, List.nil_append] at hplace ⊢
  change (stepped (Reader.expression room)).run _ = _
  rw [stepped_eq, run_bind_ok hplace]
  cases op <;> rfl

end ReadsBack

mutual

theorem reads_expr : (expr : Expr) → expr.Printable → ReadsBack spelling expr
  | .literal value, h => .literal value h
  | .read place, h => reads_place place h
  | .call callee args, h => .call (reads_expr callee h.1) (reads_items args h.2)
  | .unary op operand, h => .unary op (reads_expr operand h)
  | .binary left op right, h =>
    if hop : op = .pow then hop ▸ .pow (reads_expr left h.1) (reads_expr right h.2)
    else .binary hop (reads_expr left h.1) (reads_expr right h.2)
  | .logical left op right, h => .logical op (reads_expr left h.1) (reads_expr right h.2)
  | .conditional test yes no, h =>
    .conditional (reads_expr test h.1) (reads_expr yes h.2.1) (reads_expr no h.2.2)
  | .object entries, h => .object (reads_entries entries h)
  | .array items, h => .array (reads_items items h)
  | .assign target _ value, h => .assign (reads_place target h.1) h.2.1 (reads_expr value h.2.2)
  | .update target op true, h => .stepBefore op (reads_place target h)
  | .update target op false, h => .stepBehind op (reads_place target h)

theorem reads_place : (place : Place) → place.Printable → ReadsBack spelling (.read place)
  | .name name, _ => .name name
  | .member object name optional, h => .member (reads_expr object h) name optional
  | .index object index optional, h =>
    .index (reads_expr object h.1) (reads_expr index h.2) optional

theorem reads_items : (items : List Expr) → Expr.ListPrintable items →
    ∀ item ∈ items, ReadsBack spelling item
  | [], _ => nofun
  | first :: rest, h => List.forall_mem_cons.mpr ⟨reads_expr first h.1, reads_items rest h.2⟩

theorem reads_entries : (entries : List Entry) → Entry.ListPrintable entries →
    ∀ part ∈ entries, ReadsBack spelling (entryValue part)
  | [], _ => nofun
  | .pair _ value :: rest, h =>
    List.forall_mem_cons.mpr ⟨reads_expr value h.1, reads_entries rest h.2⟩
  | .spread value :: rest, h =>
    List.forall_mem_cons.mpr ⟨reads_expr value h.1, reads_entries rest h.2⟩

end

end Canvasflow.Program.Reader
