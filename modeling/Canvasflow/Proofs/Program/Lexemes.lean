import Canvasflow.Proofs.Outcome
import Canvasflow.Proofs.Program.Scanning

/-!
# Pieces of program text and what they mean

`Classified` says what a piece is found as, and `Classified.token` that a piece that makes a token
is found again from its own characters when nothing follows or white space does. `Scans` reads the
tokens of a text without their places off its pieces; a text scans exactly if it is cut into tokens.
-/

namespace Canvasflow.Program

open Canvasflow.Text (isDigit)

/-- What a piece is and how many characters it has after its first, by what it is found as. -/
inductive Classified (c : Char) (rest : List Char) : PieceKind → Nat → Prop
  | comment {n : Nat} (slash : c = '/') (h : commentLength? rest = some n) :
      Classified c rest .comment n
  | number {n : Nat} (h : numeralLength? (c :: rest) = some (n + 1)) : Classified c rest .number n
  | text {n : Nat} (quote : c = '"' ∨ c = '\'') (h : quotedLength? c rest = some n) :
      Classified c rest .text n
  | op {n : Nat} (uncommented : c = '/' → commentLength? rest = none)
      (unnumbered : numeralLength? (c :: rest) = none)
      (h : operatorLength? (c :: rest) = some (n + 1)) : Classified c rest .op n
  | word (starts : startsWord c = true) :
      Classified c rest .word (rest.takeWhile continuesWord).length
  | lineEnd (line : c = '\n') : Classified c rest .lineEnd 0
  | blank (blank : isLineBlank c = true) :
      Classified c rest .blank (rest.takeWhile isLineBlank).length
  | unknown (h : classifyPiece c rest = (.unknown, 0)) : Classified c rest .unknown 0

theorem numeralLength?_ne_zero {chars : List Char} : numeralLength? chars ≠ some 0 := by
  intro h
  have hnil := (numeralLength?_take h).2
  rw [List.take_zero] at hnil
  exact absurd hnil (by decide)

/-- Where neither a comment, a numeral, a quoted text nor an operator is found, it is the first
character that says what there is. -/
theorem classifyPiece_unfound {c : Char} {rest : List Char}
    (hcomment : (if c = '/' then commentLength? rest else none) = none)
    (hnumber : numeralLength? (c :: rest) = none) (hquote : ¬ (c = '"' ∨ c = '\''))
    (hop : operatorLength? (c :: rest) = none) :
    classifyPiece c rest =
      if startsWord c then (.word, (rest.takeWhile continuesWord).length)
      else if c = '\n' then (.lineEnd, 0)
      else if isLineBlank c then (.blank, (rest.takeWhile isLineBlank).length)
      else (.unknown, 0) := by
  simp only [classifyPiece, hcomment, hnumber, if_neg hquote, hop]

/-- What neither a numeral, an operator, a comment nor a quoted text starts with. -/
theorem classifyPiece_plain {c : Char} (hdigit : isDigit c = false) (hstart : c ∉ operatorStarts)
    (hquote : ¬ (c = '"' ∨ c = '\'')) (rest : List Char) :
    classifyPiece c rest =
      if startsWord c then (.word, (rest.takeWhile continuesWord).length)
      else if c = '\n' then (.lineEnd, 0)
      else if isLineBlank c then (.blank, (rest.takeWhile isLineBlank).length)
      else (.unknown, 0) := by
  have hslash : c ≠ '/' := by
    rintro rfl
    exact hstart (by decide)
  have hpoint : c ≠ '.' := by
    rintro rfl
    exact hstart (by decide)
  exact classifyPiece_unfound (if_neg hslash) (numeralLength?_eq_none hdigit hpoint rest) hquote
    (operatorLength?_eq_none hstart rest)

theorem classified (c : Char) (rest : List Char) :
    Classified c rest (classifyPiece c rest).1 (classifyPiece c rest).2 := by
  have of_eq {kind : PieceKind} {n : Nat} (heq : classifyPiece c rest = (kind, n))
      (h : Classified c rest kind n) :
      Classified c rest (classifyPiece c rest).1 (classifyPiece c rest).2 := by
    rw [heq]
    exact h
  -- the scanners are tried in their order, and each is left only when it finds nothing
  by_cases hcomment : (if c = '/' then commentLength? rest else none) = none
  case neg =>
    have hslash : c = '/' := by
      by_contra hslash
      exact hcomment (if_neg hslash)
    rw [if_pos hslash] at hcomment
    obtain ⟨n, hn⟩ := Option.ne_none_iff_exists'.mp hcomment
    exact of_eq (by simp only [classifyPiece, if_pos hslash, hn]) (.comment hslash hn)
  cases hnumber : numeralLength? (c :: rest) with
  | some n =>
    cases n with
    | zero => exact absurd hnumber numeralLength?_ne_zero
    | succ n => exact of_eq (by simp only [classifyPiece, hcomment, hnumber]; rfl) (.number hnumber)
  | none =>
  cases hop : operatorLength? (c :: rest) with
  | some n =>
    have hquote : ¬ (c = '"' ∨ c = '\'') := by
      rintro (rfl | rfl) <;> rw [operatorLength?_eq_none (by decide)] at hop <;> cases hop
    have hslash (h : c = '/') : commentLength? rest = none := by rwa [if_pos h] at hcomment
    cases n with
    | zero => exact absurd (operatorLength?_take hop).2.1 (Nat.lt_irrefl 0)
    | succ n =>
      exact of_eq (by simp only [classifyPiece, hcomment, hnumber, if_neg hquote, hop]; rfl)
        (.op hslash hnumber hop)
  | none =>
  by_cases hquote : c = '"' ∨ c = '\''
  · cases htext : quotedLength? c rest with
    | some n =>
      exact of_eq (by simp only [classifyPiece, hcomment, hnumber, if_pos hquote, htext])
        (.text hquote htext)
    | none =>
      have hword : startsWord c = false ∧ c ≠ '\n' ∧ isLineBlank c = false := by
        obtain rfl | rfl := hquote <;> decide
      have hunknown : classifyPiece c rest = (.unknown, 0) := by
        simp [classifyPiece, hcomment, hnumber, hquote, htext, hop, hword]
      exact of_eq hunknown (.unknown hunknown)
  have hpiece := classifyPiece_unfound hcomment hnumber hquote hop
  by_cases hword : startsWord c = true
  · exact of_eq (hpiece.trans (if_pos hword)) (.word hword)
  rw [if_neg hword] at hpiece
  by_cases hline : c = '\n'
  · exact of_eq (hpiece.trans (if_pos hline)) (.lineEnd hline)
  rw [if_neg hline] at hpiece
  by_cases hblank : isLineBlank c = true
  · exact of_eq (hpiece.trans (if_pos hblank)) (.blank hblank)
  rw [if_neg hblank] at hpiece
  exact of_eq hpiece (.unknown hpiece)

namespace Classified

variable {c : Char} {rest : List Char} {kind : PieceKind} {n : Nat}

theorem eq (h : Classified c rest kind n) : classifyPiece c rest = (kind, n) := by
  cases h with
  | comment slash h => simp [classifyPiece, slash, h]
  | number h =>
    have hslash : c ≠ '/' := by
      rintro rfl
      rw [numeralLength?_eq_none (by decide) (by decide)] at h
      cases h
    simp [classifyPiece, hslash, h]
  | text quote h =>
    have hc : c ≠ '/' ∧ numeralLength? (c :: rest) = none := by
      obtain rfl | rfl := quote <;>
        exact ⟨by decide, numeralLength?_eq_none (by decide) (by decide) rest⟩
    simp [classifyPiece, hc, quote, h]
  | op uncommented unnumbered h =>
    have hquote : ¬ (c = '"' ∨ c = '\'') := by
      rintro (rfl | rfl) <;> rw [operatorLength?_eq_none (by decide)] at h <;> cases h
    have hcomment : (if c = '/' then commentLength? rest else none) = none := by
      split_ifs with hslash
      exacts [uncommented hslash, rfl]
    simp [classifyPiece, hcomment, unnumbered, hquote, h]
  | word starts =>
    obtain ⟨hstart, hquote, hquote', -⟩ := startsWord_only starts
    rw [classifyPiece_plain (isDigit_of_startsWord starts) hstart (by simp [hquote, hquote']),
      if_pos starts]
  | lineEnd line =>
    subst line
    exact classifyPiece_plain (by decide) (by decide) (by decide) rest
  | blank blank =>
    have hwhite : isWhite c = true := by simp [isWhite, blank]
    obtain rfl | rfl | rfl | rfl := isWhite_cases hwhite
    · exact classifyPiece_plain (by decide) (by decide) (by decide) rest
    · exact classifyPiece_plain (by decide) (by decide) (by decide) rest
    · exact classifyPiece_plain (by decide) (by decide) (by decide) rest
    · exact absurd blank (by decide)
  | unknown h => exact h

/-- A piece is found as one thing only. -/
theorem unique {other : PieceKind} {m : Nat} (h : Classified c rest kind n)
    (hother : Classified c rest other m) : kind = other ∧ n = m := by
  simpa using h.eq.symm.trans hother.eq

/-- A piece that makes a token is found again from its own characters, when nothing follows or white
space does. -/
theorem token (h : Classified c rest kind n)
    (hkind : kind = .number ∨ kind = .text ∨ kind = .op ∨ kind = .word) {other : List Char}
    (hother : Apart other) : Classified c (rest.take n ++ other) kind n := by
  cases h with
  | number h =>
    have h := (numeralLength?_take h).2
    rw [List.take_succ_cons, ← numeralLength?_append hother] at h
    exact .number h
  | text quote h => exact .text quote (quotedLength?_take h other).2
  | op uncommented unnumbered h =>
    obtain ⟨hop, -, -, h⟩ := operatorLength?_take h
    rw [List.take_succ_cons] at hop h
    obtain ⟨hnumber, hcomment⟩ := operator_unread hop
    rw [← numeralLength?_append hother] at hnumber
    rw [← operatorLength?_append hother] at h
    refine .op (fun hslash => commentLength?_eq_none fun d hd => ?_) hnumber h
    cases htail : rest.take n with
    | cons e tail => exact hcomment (by simp [hslash]) d (by simpa [htail] using hd)
    | nil =>
      have hwhite : isWhite d = true := hother d (by simpa [htail] using hd)
      constructor <;> rintro rfl <;> exact absurd hwhite (by decide)
  | word starts =>
    have hword := takeWhile_append (hother.stops (p := continuesWord) (by decide))
      (rest.takeWhile continuesWord)
    rw [List.takeWhile_idem] at hword
    have htake : rest.take (rest.takeWhile continuesWord).length = rest.takeWhile continuesWord :=
      (List.prefix_iff_eq_take.mp (List.takeWhile_prefix _)).symm
    have h : Classified c (rest.takeWhile continuesWord ++ other) .word _ := .word starts
    rw [hword] at h
    rwa [htake]
  | _ => simp at hkind

/-- A piece lies within the text. -/
theorem le_length (h : Classified c rest kind n) : n ≤ rest.length := by
  cases h with
  | comment slash h =>
    unfold commentLength? at h
    split at h
    · obtain rfl := Option.some.inj h
      rw [List.length_cons, Nat.add_comm]
      exact Nat.succ_le_succ (List.takeWhile_prefix _).length_le
    · obtain ⟨m, hm, rfl⟩ := Option.map_eq_some_iff.mp h
      exact Nat.succ_le_succ (blockCommentLength?_append hm []).1
    · cases h
  | number h => exact Nat.le_of_succ_le_succ (numeralLength?_take h).1
  | text quote h => exact (quotedLength?_take h []).1
  | op uncommented unnumbered h => exact Nat.le_of_succ_le_succ (operatorLength?_take h).2.2.1
  | word | blank => exact (List.takeWhile_prefix _).length_le
  | lineEnd | unknown => exact Nat.zero_le _

end Classified

/-! ## Whole texts -/

/-- What a token means, wherever it stands: its kind and its text. -/
abbrev Lexeme : Type := TokenKind × String

/-- A token without its place. -/
def Token.lexeme (token : Token) : Lexeme :=
  (token.kind, token.value)

/-- The token that a piece makes, without its place. -/
def Piece.lexeme? (piece : Piece) : Option Lexeme :=
  piece.tokenKind?.map fun kind => (kind, String.ofList piece.chars)

/-- The end of a text, without its place. -/
def endLexeme : Lexeme := (.endOfText, "")

/-- A text all of whose characters belong to pieces, and the tokens that these make, without their
places. -/
inductive Scans : List Char → List Lexeme → Prop
  | nil : Scans [] []
  | skip {c : Char} {rest : List Char} {kind : PieceKind} {n : Nat} {lexemes : List Lexeme}
      (h : Classified c rest kind n) (hkind : kind = .comment ∨ kind = .lineEnd ∨ kind = .blank)
      (hrest : Scans (rest.drop n) lexemes) : Scans (c :: rest) lexemes
  | token {c : Char} {rest : List Char} {kind : PieceKind} {n : Nat} {lexeme : Lexeme}
      {lexemes : List Lexeme} (h : Classified c rest kind n)
      (hlexeme : Piece.lexeme? ⟨kind, c :: rest.take n⟩ = some lexeme)
      (hrest : Scans (rest.drop n) lexemes) : Scans (c :: rest) (lexeme :: lexemes)

/-- A piece of a known kind makes a token or none. -/
theorem tokensFrom_known {piece : Piece} (h : piece.kind ≠ .unknown) (position : Position)
    (rest : List Piece) :
    tokensFrom position (piece :: rest) = (do
      let following ← tokensFrom (position.advance piece.chars) rest
      match piece.tokenKind? with
      | some kind => .ok (⟨kind, String.ofList piece.chars, position⟩ :: following)
      | none => .ok following) := by
  rw [tokensFrom]
  split
  · contradiction
  · rfl

/-- The pieces that make no token. -/
theorem tokenKind?_eq_none {piece : Piece} (h : piece.kind ≠ .unknown) :
    piece.tokenKind? = none ↔
      piece.kind = .comment ∨ piece.kind = .lineEnd ∨ piece.kind = .blank := by
  unfold Piece.tokenKind?
  split <;> simp_all

namespace Scans

variable {chars : List Char} {lexemes : List Lexeme}

/-- A text that is cut into tokens scans. -/
theorem of_tokensFrom {position : Position} {tokens : List Token}
    (h : tokensFrom position (pieces chars) = .ok tokens) :
    ∃ lexemes, Scans chars lexemes ∧ tokens.map Token.lexeme = lexemes ++ [endLexeme] := by
  induction chars using pieces.induct generalizing position tokens with
  | case1 =>
    rw [pieces] at h
    cases h
    exact ⟨[], .nil, rfl⟩
  | case2 c rest found =>
    rename_i ih
    have hfound := classified c rest
    rw [pieces] at h
    by_cases hknown : (classifyPiece c rest).1 = .unknown
    · simp only [tokensFrom, hknown] at h
      cases h
    · rw [tokensFrom_known hknown] at h
      obtain ⟨following, hrest, h⟩ := bind_eq_ok_iff.mp h
      obtain ⟨lexemes, hscans, hlexemes⟩ := ih hrest
      split at h
      · rename_i kind hkind
        cases h
        refine ⟨_, .token hfound (by rw [Piece.lexeme?, hkind]; rfl) hscans, ?_⟩
        simp [Token.lexeme, hlexemes]
      · rename_i hkind
        cases h
        exact ⟨lexemes, .skip hfound ((tokenKind?_eq_none hknown).mp hkind) hscans, hlexemes⟩

/-- A text that scans is cut into its tokens. -/
theorem tokensFrom_pieces (h : Scans chars lexemes) (position : Position) :
    ∃ tokens, tokensFrom position (pieces chars) = .ok tokens ∧
      tokens.map Token.lexeme = lexemes ++ [endLexeme] := by
  induction h generalizing position with
  | nil => exact ⟨_, by rw [pieces, tokensFrom], rfl⟩
  | @skip c rest kind n lexemes h hkind hrest ih =>
    have hknown : kind ≠ .unknown := by
      rintro rfl
      simp at hkind
    obtain ⟨tokens, htokens, hlexemes⟩ := ih (position.advance (c :: rest.take n))
    refine ⟨tokens, ?_, hlexemes⟩
    have hnone : Piece.tokenKind? ⟨kind, c :: rest.take n⟩ = none :=
      (tokenKind?_eq_none hknown).mpr hkind
    rw [pieces, h.eq, tokensFrom_known hknown, htokens]
    simp only [hnone]
    rfl
  | @token c rest kind n lexeme lexemes h hlexeme hrest ih =>
    obtain ⟨tokenKind, hkind, rfl⟩ := Option.map_eq_some_iff.mp hlexeme
    have hknown : kind ≠ .unknown := by
      rintro rfl
      cases hkind
    obtain ⟨tokens, htokens, hlexemes⟩ := ih (position.advance (c :: rest.take n))
    refine ⟨⟨tokenKind, String.ofList (c :: rest.take n), position⟩ :: tokens, ?_, ?_⟩
    · rw [pieces, h.eq, tokensFrom_known hknown, htokens]
      simp only [hkind]
      rfl
    · simp [Token.lexeme, hlexemes]

/-- A text scans exactly if it is cut into tokens. -/
theorem of_tokenize {source : String} {tokens : List Token} (h : tokenize source = .ok tokens) :
    ∃ lexemes, Scans source.toList lexemes ∧ tokens.map Token.lexeme = lexemes ++ [endLexeme] := by
  unfold tokenize at h
  split at h
  · rename_i htokens
    cases h
    exact of_tokensFrom htokens
  · cases h

theorem tokenize {source : String} (h : Scans source.toList lexemes) :
    ∃ tokens, Program.tokenize source = .ok tokens ∧
      tokens.map Token.lexeme = lexemes ++ [endLexeme] := by
  obtain ⟨tokens, htokens, hlexemes⟩ := h.tokensFrom_pieces .start
  exact ⟨tokens, by rw [Program.tokenize, htokens], hlexemes⟩

end Scans

end Canvasflow.Program
