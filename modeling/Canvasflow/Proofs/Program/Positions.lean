import Canvasflow.Proofs.Program.Lexemes

/-!
# Where tokens stand

A place is counted off the characters in front of it: one line more than they have line ends, and
one column more than they have characters after the last line end. A token stands at the place after
the pieces in front of its own, whatever these are. `tokenize_places` says so of every text: the
pieces are not empty and make up the text, or all of it in front of a character that starts no
piece, and tokens, the end of the text and that character are placed by what is in front of them.
-/

namespace Canvasflow.Program

namespace Position

/-- The place after some characters. -/
def after (before : List Char) : Position where
  line := 1 + before.count '\n'
  column := 1 + (before.reverse.takeWhile (· ≠ '\n')).length

theorem step_after (before : List Char) (c : Char) :
    (after before).step c = after (before ++ [c]) := by
  by_cases hc : c = '\n'
  · simp [step, after, hc, Nat.add_assoc]
  · simp [step, after, hc, Nat.add_assoc]

/-- Going on from a place over more characters counts them in, line ends among them. -/
theorem advance_after (before chars : List Char) :
    (after before).advance chars = after (before ++ chars) := by
  induction chars generalizing before with
  | nil => rw [List.append_nil]; rfl
  | cons c rest ih =>
    calc (after before).advance (c :: rest)
        = ((after before).step c).advance rest := rfl
      _ = (after (before ++ [c])).advance rest := by rw [step_after]
      _ = after (before ++ c :: rest) := by rw [ih, List.append_assoc]; rfl

example : after "a /* \n */ ".toList = ⟨2, 5⟩ := by decide

end Position

/-- The characters of some pieces. -/
def covered (pieces : List Piece) : List Char :=
  (pieces.map Piece.chars).flatten

@[simp] theorem covered_nil : covered [] = [] := rfl

@[simp] theorem covered_cons (piece : Piece) (rest : List Piece) :
    covered (piece :: rest) = piece.chars ++ covered rest := rfl

@[simp] theorem covered_append (pieces others : List Piece) :
    covered (pieces ++ others) = covered pieces ++ covered others := by
  simp [covered]

/-- The token that a piece makes after some characters, if it makes one. -/
def Piece.token? (before : List Char) (piece : Piece) : Option Token :=
  piece.tokenKind?.map fun kind => ⟨kind, String.ofList piece.chars, .after before⟩

/-- The tokens that pieces make after some characters, one after another. -/
def located (before : List Char) : List Piece → List Token
  | [] => []
  | piece :: rest => (piece.token? before).toList ++ located (before ++ piece.chars) rest

/-- The end of a text. -/
def endAfter (chars : List Char) : Token :=
  ⟨.endOfText, "", .after chars⟩

/-- A token stands where its text is. -/
theorem of_mem_located {before : List Char} {pieces : List Piece} {token : Token}
    (h : token ∈ located before pieces) :
    ∃ earlier rest, covered pieces = earlier ++ token.value.toList ++ rest ∧
      token.position = .after (before ++ earlier) := by
  induction pieces generalizing before with
  | nil => cases h
  | cons piece others ih =>
    rcases List.mem_append.mp h with hfirst | hlater
    · obtain ⟨kind, -, rfl⟩ := Option.map_eq_some_iff.mp (Option.mem_toList.mp hfirst)
      exact ⟨[], covered others, by simp, by simp⟩
    · obtain ⟨earlier, rest, hcovered, hposition⟩ := ih hlater
      refine ⟨piece.chars ++ earlier, rest, ?_, ?_⟩
      · rw [covered_cons, hcovered]
        simp only [List.append_assoc]
      · rw [hposition, List.append_assoc]

/-- Pieces of known kinds make the tokens at their places, and at last the end of the text. -/
theorem tokensFrom_of_known {pieces : List Piece} (h : ∀ piece ∈ pieces, piece.kind ≠ .unknown)
    (before : List Char) :
    tokensFrom (.after before) pieces =
      .ok (located before pieces ++ [endAfter (before ++ covered pieces)]) := by
  induction pieces generalizing before with
  | nil => rw [covered_nil, List.append_nil]; rfl
  | cons piece rest ih =>
    obtain ⟨hpiece, hrest⟩ := List.forall_mem_cons.mp h
    rw [tokensFrom_known hpiece, Position.advance_after, ih hrest, covered_cons,
      ← List.append_assoc]
    cases hkind : piece.tokenKind? <;> simp [located, Piece.token?, hkind, bind, Except.bind]

/-- The first piece of no known kind is reported at its place. -/
theorem tokensFrom_of_unknown {pieces : List Piece} (h : ∀ piece ∈ pieces, piece.kind ≠ .unknown)
    (before : List Char) (c : Char) (more : List Char) (rest : List Piece) :
    tokensFrom (.after before) (pieces ++ ⟨.unknown, c :: more⟩ :: rest) =
      .error (c, .after (before ++ covered pieces)) := by
  induction pieces generalizing before with
  | nil => rw [covered_nil, List.append_nil]; rfl
  | cons piece others ih =>
    obtain ⟨hpiece, hothers⟩ := List.forall_mem_cons.mp h
    rw [List.cons_append, tokensFrom_known hpiece, Position.advance_after, ih hothers,
      covered_cons, ← List.append_assoc]
    rfl

/-- The pieces of a text in front of the first one of no known kind. -/
def knownPieces (chars : List Char) : List Piece :=
  (pieces chars).takeWhile fun piece => piece.kind ≠ .unknown

theorem knownPieces_known {chars : List Char} {piece : Piece} (h : piece ∈ knownPieces chars) :
    piece.kind ≠ .unknown := by
  simpa using List.mem_takeWhile_imp h

/-- A character that starts no piece stands alone. -/
theorem classifyPiece_unknown {c : Char} {rest : List Char}
    (h : (classifyPiece c rest).1 = .unknown) : classifyPiece c rest = (.unknown, 0) := by
  have hfound := classified c rest
  rw [h] at hfound
  generalize (classifyPiece c rest).2 = n at hfound
  cases hfound with
  | unknown hunknown => exact hunknown

theorem knownPieces_cons (c : Char) (rest : List Char) :
    knownPieces (c :: rest) =
      if (classifyPiece c rest).1 = .unknown then []
      else ⟨(classifyPiece c rest).1, c :: rest.take (classifyPiece c rest).2⟩ ::
        knownPieces (rest.drop (classifyPiece c rest).2) := by
  rw [knownPieces, pieces, List.takeWhile_cons]
  by_cases hkind : (classifyPiece c rest).1 = .unknown <;> simp [hkind, knownPieces]

/-- The known pieces are all pieces and make up the text, or a character that starts no piece comes
after them. -/
theorem knownPieces_cases (chars : List Char) :
    (pieces chars = knownPieces chars ∧ covered (knownPieces chars) = chars) ∨
      ∃ c rest, chars = covered (knownPieces chars) ++ c :: rest ∧
        classifyPiece c rest = (.unknown, 0) ∧
        pieces chars = knownPieces chars ++ ⟨.unknown, [c]⟩ :: pieces rest := by
  induction chars using pieces.induct with
  | case1 => exact .inl (by simp [knownPieces, pieces])
  | case2 c rest found ih =>
    rw [knownPieces_cons, pieces]
    split
    · rename_i hunknown
      have hfound := classifyPiece_unknown hunknown
      exact .inr ⟨c, rest, rfl, hfound, by simp [hfound]⟩
    · rcases ih with ⟨hpieces, hcovered⟩ | ⟨d, after, hchars, hd, hpieces⟩
      · refine .inl ⟨congrArg _ hpieces, ?_⟩
        rw [covered_cons, hcovered, List.cons_append, List.take_append_drop]
      · refine .inr ⟨d, after, ?_, hd, congrArg _ hpieces⟩
        rw [covered_cons, List.append_assoc, ← hchars, List.cons_append, List.take_append_drop]

/-- Every text is its pieces, none of them empty, up to its end or to a character that starts no
piece. The tokens are those of the pieces and the end of the text; each has the characters at its
place for its text, and a place is where the characters before it lead, on whatever lines they
are. -/
theorem tokenize_places (source : String) :
    (∀ piece ∈ knownPieces source.toList, piece.chars ≠ []) ∧
      match tokenize source with
      | .ok tokens =>
        covered (knownPieces source.toList) = source.toList ∧
          tokens = located [] (knownPieces source.toList) ++ [endAfter source.toList] ∧
          ∀ token ∈ tokens, ∃ before rest,
            source.toList = before ++ token.value.toList ++ rest ∧ token.position = .after before
      | .error fault =>
        ∃ c rest, source.toList = covered (knownPieces source.toList) ++ c :: rest ∧
          (classifyPiece c rest).1 = .unknown ∧
          fault = .unexpectedCharacter c (.after (covered (knownPieces source.toList))) := by
  have hknown : ∀ piece ∈ knownPieces source.toList, piece.kind ≠ .unknown :=
    fun piece hpiece => knownPieces_known hpiece
  have hstart : Position.start = .after [] := rfl
  refine ⟨fun piece hpiece =>
    ne_nil_of_mem_pieces ((List.takeWhile_sublist _).subset hpiece), ?_⟩
  rcases knownPieces_cases source.toList with ⟨hpieces, hcovered⟩ | ⟨c, rest, hsource, hc, hpieces⟩
  · rw [tokenize, hpieces, hstart, tokensFrom_of_known hknown, List.nil_append, hcovered]
    refine ⟨rfl, rfl, fun token htoken => ?_⟩
    rcases List.mem_append.mp htoken with hlocated | hend
    · obtain ⟨earlier, rest, hsource, hposition⟩ := of_mem_located hlocated
      exact ⟨earlier, rest, hcovered ▸ hsource, hposition⟩
    · obtain rfl := List.mem_singleton.mp hend
      exact ⟨source.toList, [], by simp [endAfter], rfl⟩
  · rw [tokenize, hpieces, hstart, tokensFrom_of_unknown hknown, List.nil_append]
    exact ⟨c, rest, hsource, by rw [hc], rfl⟩

end Canvasflow.Program
