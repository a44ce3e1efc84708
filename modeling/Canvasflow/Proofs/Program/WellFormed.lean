import Canvasflow.Proofs.Program.Rounds
import Canvasflow.Proofs.Program.Staying
import Canvasflow.Proofs.Program.Unchecked

/-!
# Every text is read to its end or refused, and what is read is well formed

The nesting that a text may have is limited. With as much room as a text of its length can need, its
reading is not stopped by that limit, and no further room changes it. It then ends in a program or
in a fault at a token of the text, without going past the end of the text, and its loops take a
token in every round. The programs that are read, with whatever room, are made of what they should
be at every depth, so that an unchecked run of them never falls back.
-/

namespace Canvasflow.Program

open Reader

/-! ## The tokens of a text -/

theorem Piece.kind_ne_endOfText {piece : Piece} {kind : TokenKind}
    (h : piece.tokenKind? = some kind) : kind ≠ .endOfText := by
  unfold Piece.tokenKind? at h
  split at h
  case h_4 =>
    obtain rfl := Option.some.inj h
    split_ifs <;> decide
  all_goals cases h <;> decide

theorem ended_of_tokensFrom {position : Position} {found : List Piece} {tokens : List Token}
    (h : tokensFrom position found = .ok tokens) : Ended tokens := by
  induction found generalizing position tokens with
  | nil =>
    cases h
    exact .last rfl
  | cons piece rest ih =>
    rw [tokensFrom] at h
    split at h
    · cases h
    · obtain ⟨following, hrest, h⟩ := bind_eq_ok_iff.mp h
      split at h
      · next kind hkind =>
        cases h
        exact .cons (Piece.kind_ne_endOfText hkind) (ih hrest)
      · cases h
        exact ih hrest

theorem ended_of_tokenize {source : String} {tokens : List Token}
    (h : tokenize source = .ok tokens) : Ended tokens := by
  unfold tokenize at h
  split at h
  · next hfound =>
    cases h
    exact ended_of_tokensFrom hfound
  · cases h

/-- What keeps a text from being cut into tokens is a character that starts no piece. -/
theorem unexpected_of_tokenize {source : String} {fault : SyntaxFault}
    (h : tokenize source = .error fault) :
    ∃ c position, fault = .unexpectedCharacter c position := by
  unfold tokenize at h
  split at h
  · cases h
  · next c position _ =>
    cases h
    exact ⟨c, position, rfl⟩

/-! ## Reading with any room -/

/-- Read a mapping of at most the given nesting, as a body that returns it. -/
def mappingWithin (room : Nat) : Reader (List Stmt) := do
  let value ← mapping (expression room)
  let _ ← acceptOp ";"
  expectEnd
  return [.ret (some value)]

/-- What reads the programs of a grammar that have at most the given nesting. -/
def readerWithin (room : Nat) : Grammar → Reader (List Stmt)
  | .shorthand => mappingWithin room
  | .expanded => bodyWithin room

/-- The body of a program text that has at most the given nesting. -/
def parseWithin (room : Nat) (grammar : Grammar) (source : String) :
    Except SyntaxFault (List Stmt) := do
  let tokens ← tokenize source
  let (body, _) ← (readerWithin room grammar).run tokens
  return body

/-- The nesting that the programs of a grammar may have. -/
def Grammar.room : Grammar → Nat
  | shorthand => mappingRoom
  | expanded => bodyRoom

theorem parse_eq (grammar : Grammar) (source : String) :
    parse grammar source = parseWithin grammar.room grammar source := by
  cases grammar <;> rfl

/-- As much room as a text of its length can need. -/
def roomFor (source : String) : Nat :=
  3 * (source.length + 2)

section Rooms

variable {all : List Token} {deep : Prop} {room room' limit : Nat}

/-- The readers of a grammar, with room for the tokens that are left or if they may be out of it. -/
theorem readerWithin_stays (grammar : Grammar) (hroom : room ≤ room')
    (hdeep : deep ∨ 3 * limit ≤ room) :
    Stays all deep Anywhere 1 limit (fun body => ∀ stmt ∈ body, stmt.WellFormed)
      (readerWithin room grammar) (readerWithin room' grammar) := by
  obtain rfl | hlimit := Nat.eq_zero_or_pos limit
  · exact .nothing
  cases grammar with
  | shorthand =>
    have hitem (least : Nat) (hleast : least ≤ limit) :
        Stays all deep Anywhere 1 least Expr.WellFormed (expression room) (expression room') :=
      (expression_stays room room' hroom).1 least (hdeep.imp_right (by omega))
    refine .bind ((mapping_stays hitem (by omega)).more 1) fun value hvalue => ?_
    have hreturned : ∀ stmt ∈ [Stmt.ret (some value)], stmt.WellFormed :=
      List.forall_mem_singleton.mpr (optional_some hvalue)
    exact accept_stays (by decide) (.bind expectEnd_stays fun _ _ => .pure hreturned)
      (.bind expectEnd_stays fun _ _ => .pure hreturned)
  | expanded =>
    have hinner (least : Nat) (hleast : least ≤ limit - 1) :
        Stays all deep Anywhere 1 least Stmt.WellFormed (statement room) (statement room') :=
      statement_stays room room' hroom least (hdeep.imp_right (by omega))
    exact after_stays <| after_stays <| .bind (blockBody_stays hinner (by omega)) fun _ hbody =>
      .bind expectEnd_stays fun _ _ => .pure hbody

/-- How a grammar is read over the tokens of a text, with room for all of them or if it may be out
of it. -/
theorem readerWithin_ends (deep : Prop) {source : String} {tokens : List Token} (grammar : Grammar)
    (hsource : tokenize source = .ok tokens) (hroom : room ≤ room')
    (hdeep : deep ∨ roomFor source ≤ room) (extra : List Token) :
    Ends tokens deep 1 (fun body => ∀ stmt ∈ body, stmt.WellFormed) tokens extra
      ((readerWithin room grammar).run tokens)
      ((readerWithin room' grammar).run (tokens ++ extra)) := by
  have hlength := (tokenize_ok hsource).1
  refine readerWithin_stays grammar hroom (hdeep.imp_right fun hroom => ?_) extra List.suffix_rfl
    (ended_of_tokenize hsource) trivial (Nat.lt_succ_self _)
  rw [roomFor] at hroom
  omega

end Rooms

/-- The body of a program text, read with as much room as it can need. -/
def parseFully (grammar : Grammar) (source : String) : Except SyntaxFault (List Stmt) :=
  parseWithin (roomFor source) grammar source

/-- What a text is read to is what is read over its tokens. -/
theorem parseWithin_eq {source : String} {tokens : List Token} (h : tokenize source = .ok tokens)
    (room : Nat) (grammar : Grammar) :
    parseWithin room grammar source = ((readerWithin room grammar).run tokens).map Prod.fst := by
  rw [parseWithin, h]
  generalize readerWithin room grammar = reader
  change ((reader.run tokens).bind fun result => .ok result.1) = _
  cases reader.run tokens <;> rfl

/-- A text that is not cut into tokens is not read. -/
theorem parseWithin_of_error {source : String} {fault : SyntaxFault}
    (h : tokenize source = .error fault) (room : Nat) (grammar : Grammar) :
    parseWithin room grammar source = .error fault := by
  rw [parseWithin, h]
  generalize readerWithin room grammar = reader
  rfl

/-- Two readers that see no more than the tokens end alike, unless the first is out of room. -/
theorem Ends.eq_or {α : Type} {all tokens : List Token} {deep : Prop} {taken : Nat}
    {kind : α → Prop} {result other : Except SyntaxFault (α × List Token)}
    (h : Ends all deep taken kind tokens [] result other) :
    result = other ∨ deep ∧ result = .error .nestedTooDeeply := by
  cases h with
  | given => simp
  | refused => exact .inl rfl
  | tooDeep hdeep => exact .inr ⟨hdeep, rfl⟩

/-- With as much room as it can need, a text is not nested too deeply. -/
theorem parseFully_ne_tooDeep (grammar : Grammar) (source : String) :
    parseFully grammar source ≠ .error .nestedTooDeeply := by
  rw [parseFully]
  cases hsource : tokenize source with
  | error fault =>
    obtain ⟨c, position, rfl⟩ := unexpected_of_tokenize hsource
    rw [parseWithin_of_error hsource]
    simp
  | ok tokens =>
    have hends := readerWithin_ends False grammar hsource (Nat.le_refl _) (.inr (Nat.le_refl _)) []
    rw [parseWithin_eq hsource]
    generalize (readerWithin (roomFor source) grammar).run tokens = result,
      (readerWithin (roomFor source) grammar).run (tokens ++ []) = other at hends ⊢
    cases hends with
    | given => simp [Except.map]
    | refused habout =>
      rintro ⟨⟩
      exact habout
    | tooDeep hdeep => exact hdeep.elim

/-- A text that is read with some room is read in the same way with more. -/
theorem parseWithin_eq_or {room room' : Nat} (grammar : Grammar) (source : String)
    (hroom : room ≤ room') :
    parseWithin room grammar source = parseWithin room' grammar source ∨
      ¬ roomFor source ≤ room ∧ parseWithin room grammar source = .error .nestedTooDeeply := by
  cases hsource : tokenize source with
  | error fault =>
    left
    rw [parseWithin_of_error hsource, parseWithin_of_error hsource]
  | ok tokens =>
    rw [parseWithin_eq hsource, parseWithin_eq hsource]
    have hends := (readerWithin_ends _ grammar hsource hroom (em' _) []).eq_or
    rw [List.append_nil] at hends
    obtain hends | ⟨hdeep, hends⟩ := hends
    · rw [hends]
      exact .inl rfl
    · rw [hends]
      exact .inr ⟨hdeep, rfl⟩

/-- What is read, with whatever room, is made of what it should be at every depth. -/
theorem parseWithin_wellFormed {room : Nat} {grammar : Grammar} {source : String} {body : List Stmt}
    (h : parseWithin room grammar source = .ok body) :
    Node.AreStatements (Stmt.listNodes body) := by
  cases hsource : tokenize source with
  | error fault =>
    rw [parseWithin_of_error hsource] at h
    cases h
  | ok tokens =>
    rw [parseWithin_eq hsource] at h
    have hends := readerWithin_ends True grammar hsource (Nat.le_refl room) (.inl trivial) []
    generalize (readerWithin room grammar).run tokens = result,
      (readerWithin room grammar).run (tokens ++ []) = other at h hends
    cases hends with
    | given _ _ _ hbody =>
      cases h
      exact areStatements_nodes.mpr hbody
    | refused | tooDeep => cases h

/-- With as much room as it can need, a text is read to a program or refused, and it is not refused
for its nesting; more room changes nothing, and only the limit on nesting stops a reading with less.
What is read is the same with whatever further tokens after the end of the text, which is never
taken, and a fault is about one of the tokens of the text. Every round of a loop takes a token, so
the bound that the loop is given never ends it. A program that is read is made of what it should be
at every depth, so an unchecked run of it never falls back, in whatever scopes and to whatever depth
of values, and it goes as the run of the program. -/
theorem parse_wellFormed (grammar : Grammar) (source : String) :
    (∀ room, roomFor source ≤ room →
      parseWithin room grammar source = parseFully grammar source) ∧
    parseFully grammar source ≠ .error .nestedTooDeeply ∧
    (parse grammar source = parseFully grammar source ∨
      parse grammar source = .error .nestedTooDeeply) ∧
    (∀ tokens room extra, tokenize source = .ok tokens → roomFor source ≤ room →
      Ends tokens False 1 (fun body => ∀ stmt ∈ body, stmt.WellFormed) tokens extra
        ((readerWithin room grammar).run tokens)
        ((readerWithin room grammar).run (tokens ++ extra))) ∧
    (∀ (room : Nat) {σ : Type} (loop : Nat → Reader σ), Loop room loop → Progressive loop ∧
      ∀ tokens fuel fuel', tokens.length < fuel → tokens.length < fuel' →
        (loop fuel).run tokens = (loop fuel').run tokens) ∧
    ∀ room body, parseWithin room grammar source = .ok body →
      Node.AreStatements (Stmt.listNodes body) ∧ ∀ context machine,
        (∀ depth, ∃ result,
          (Node.run context depth (Stmt.listNodes body) machine).1 = .ok result) ∧
        Node.run context evaluationRoom (Stmt.listNodes body) machine =
          (.ok (run context body machine).1, (run context body machine).2) := by
  have hfully (room : Nat) (hroom : roomFor source ≤ room) :
      parseWithin room grammar source = parseFully grammar source := by
    obtain h | ⟨hless, -⟩ := parseWithin_eq_or grammar source hroom
    · exact h.symm
    · exact absurd (Nat.le_refl _) hless
  refine ⟨hfully, ?_, ?_, fun tokens room extra hsource hroom => ?_, ?_, ?_⟩
  · exact parseFully_ne_tooDeep grammar source
  · rw [parse_eq]
    obtain h | h := Nat.le_total (roomFor source) grammar.room
    · exact .inl (hfully _ h)
    · exact (parseWithin_eq_or grammar source h).imp_right And.right
  · exact readerWithin_ends False grammar hsource (Nat.le_refl room) (.inr hroom) extra
  · exact fun room _ loop h =>
      ⟨h.progressive, fun tokens fuel fuel' hfuel hfuel' => h.progressive.enough hfuel hfuel'⟩
  · intro room body h
    have hbody := parseWithin_wellFormed h
    refine ⟨hbody, fun context machine => ⟨fun depth => ?_, ?_⟩⟩
    · exact Node.run_of_areStatements hbody context depth machine
    · exact Node.run_listNodes context body machine

/-- A constant, and an assignment to a member of it. -/
def assigning : List Stmt :=
  [.declare .constName "x" (some (.read (.name "a"))),
    .expr (.assign (.member (.read (.name "x")) "b" false) (some .add) (.read (.name "c")))]

theorem parse_wellFormed_of_assigning :
    parse .expanded "() \x7b const x = a; x.b += c; \x7d" = .ok assigning ∧
    Node.AreStatements (Stmt.listNodes assigning) ∧ ∀ context machine,
      (∀ depth, ∃ result,
        (Node.run context depth (Stmt.listNodes assigning) machine).1 = .ok result) ∧
      Node.run context evaluationRoom (Stmt.listNodes assigning) machine =
        (.ok (run context assigning machine).1, (run context assigning machine).2) := by
  have hparse : parse .expanded "() \x7b const x = a; x.b += c; \x7d" = .ok assigning := by
    unfold assigning
    cbv
  obtain ⟨-, -, -, -, -, hformed⟩ :=
    parse_wellFormed .expanded "() \x7b const x = a; x.b += c; \x7d"
  exact ⟨hparse, hformed Grammar.expanded.room assigning ((parse_eq _ _).symm.trans hparse)⟩

end Canvasflow.Program
