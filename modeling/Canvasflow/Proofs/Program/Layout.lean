import Canvasflow.Proofs.Program.Following
import Mathlib

/-!
# The layout of program text

Between tokens there may be white space and comments. A text that puts the tokens of another one in
the same order, with gaps between them that start with white space, is cut into the same tokens.
-/

namespace Canvasflow.Program

/-- What may stand between tokens: white space, block comments, and line comments with the end of
their line. -/
inductive Gap : List Char → Prop
  | nil : Gap []
  | white {c : Char} {rest : List Char} (h : isWhite c = true) (hrest : Gap rest) : Gap (c :: rest)
  | block {body rest : List Char} (h : ¬ ['*', '/'] <:+: body) (hrest : Gap rest) :
      Gap ('/' :: '*' :: body ++ '*' :: '/' :: rest)
  | line {body rest : List Char} (h : '\n' ∉ body) (hrest : Gap rest) :
      Gap ('/' :: '/' :: body ++ '\n' :: rest)

/-- A gap that sets tokens apart: it starts with white space. -/
structure Spacing (chars : List Char) : Prop where
  gap : Gap chars
  ne_nil : chars ≠ []
  apart : Apart chars

/-- Some texts in their order, with a spacing after each but the last, and a spacing or nothing
after the last. -/
inductive LaidOut : List String → List Char → Prop
  | nil : LaidOut [] []
  | last {value : String} {gap : List Char} (h : gap = [] ∨ Spacing gap) :
      LaidOut [value] (value.toList ++ gap)
  | next {value other : String} {values : List String} {gap rest : List Char} (h : Spacing gap)
      (hrest : LaidOut (other :: values) rest) :
      LaidOut (value :: other :: values) (value.toList ++ (gap ++ rest))

/-- A block comment ends at the first mark that closes it. -/
theorem blockCommentLength?_of_body {body : List Char} (h : ¬ ['*', '/'] <:+: body)
    (rest : List Char) :
    blockCommentLength? (body ++ '*' :: '/' :: rest) = some (body.length + 2) := by
  induction body with
  | nil => simp [blockCommentLength?]
  | cons c body ih =>
    have hclose : ¬ (c = '*' ∧ (body ++ '*' :: '/' :: rest).head? = some '/') := by
      rintro ⟨rfl, hhead⟩
      cases body with
      | nil => simp at hhead
      | cons d body =>
        obtain rfl : d = '/' := by simpa using hhead
        exact h ⟨[], body, rfl⟩
    have hbody : ¬ ['*', '/'] <:+: body :=
      fun hbody => h (hbody.trans (List.suffix_cons c body).isInfix)
    rw [List.cons_append, blockCommentLength?_cons hclose, ih hbody]
    rfl

namespace Scans

variable {rest : List Char} {lexemes : List Lexeme}

/-- The blanks in front of a text make no token. -/
theorem dropBlanks (h : Scans rest lexemes) : Scans (rest.dropWhile isLineBlank) lexemes := by
  cases rest with
  | nil => exact h
  | cons c rest =>
    by_cases hblank : isLineBlank c = true
    · rw [List.dropWhile_cons_of_pos hblank, ← drop_run]
      cases h with
      | skip hother hkind hrest =>
        obtain ⟨rfl, rfl⟩ := hother.unique (.blank hblank)
        exact hrest
      | token hother hlexeme hrest =>
        obtain ⟨rfl, rfl⟩ := hother.unique (.blank hblank)
        cases hlexeme
    · rwa [List.dropWhile_cons_of_neg hblank]

theorem white {c : Char} (hc : isWhite c = true) (h : Scans rest lexemes) :
    Scans (c :: rest) lexemes := by
  by_cases hline : c = '\n'
  · exact .skip (.lineEnd hline) (.inr (.inl rfl)) h
  · have hblank : isLineBlank c = true := by simpa [isWhite, hline] using hc
    refine .skip (.blank hblank) (.inr (.inr rfl)) ?_
    rw [drop_run]
    exact h.dropBlanks

/-- A comment in front of a text makes no token. -/
theorem comment {used : List Char} (hcomment : commentLength? (used ++ rest) = some used.length)
    (h : Scans rest lexemes) : Scans ('/' :: (used ++ rest)) lexemes :=
  .skip (.comment rfl hcomment) (.inl rfl) (by rwa [List.drop_left])

/-- A gap in front of a text makes no token. -/
theorem gap {gap : List Char} (hgap : Gap gap) (h : Scans rest lexemes) :
    Scans (gap ++ rest) lexemes := by
  induction hgap with
  | nil => exact h
  | white hc hrest ih => exact white hc ih
  | @block body other hbody hrest ih =>
    have hcomment : commentLength? (('*' :: body ++ ['*', '/']) ++ (other ++ rest)) =
        some ('*' :: body ++ ['*', '/']).length := by
      simp [commentLength?, blockCommentLength?_of_body hbody]
    simpa using comment hcomment ih
  | @line body other hbody hrest ih =>
    have hline : (body ++ ('\n' :: other ++ rest)).takeWhile (· ≠ '\n') = body := by
      rw [takeWhile_append (by simp), List.takeWhile_eq_self_iff]
      exact fun c hc => decide_eq_true fun h => hbody (h ▸ hc)
    have hcomment : commentLength? (('/' :: body) ++ ('\n' :: other ++ rest)) =
        some ('/' :: body).length := by
      rw [List.cons_append, commentLength?, hline, List.length_cons, Nat.add_comm]
    simpa using comment hcomment (white (c := '\n') (by decide) ih)

end Scans

/-! ## Tokens stand by themselves -/

/-- The text of a token makes that token again, when nothing follows or white space does. -/
def Delimited (lexeme : Lexeme) : Prop :=
  ∃ c rest kind, lexeme.2.toList = c :: rest ∧
    Piece.lexeme? ⟨kind, c :: rest⟩ = some lexeme ∧
    ∀ other, Apart other → Classified c (rest ++ other) kind rest.length

namespace Scans

variable {chars : List Char} {lexemes : List Lexeme}

/-- Every token of a text makes itself again. -/
theorem delimited (h : Scans chars lexemes) : ∀ lexeme ∈ lexemes, Delimited lexeme := by
  induction h with
  | nil => simp
  | skip h hkind hrest ih => exact ih
  | @token c rest kind n lexeme lexemes h hlexeme hrest ih =>
    refine List.forall_mem_cons.mpr ⟨?_, ih⟩
    obtain ⟨tokenKind, hkind, rfl⟩ := Option.map_eq_some_iff.mp hlexeme
    refine ⟨c, rest.take n, kind, by simp, hlexeme, fun other hother => ?_⟩
    rw [List.length_take, Nat.min_eq_left h.le_length]
    refine h.token ?_ hother
    cases kind <;> simp [Piece.tokenKind?] at hkind ⊢

/-- A token in front of what stands apart. -/
theorem delimited_append {lexeme : Lexeme} (hlexeme : Delimited lexeme) {rest : List Char}
    (hrest : Apart rest) (h : Scans rest lexemes) :
    Scans (lexeme.2.toList ++ rest) (lexeme :: lexemes) := by
  obtain ⟨c, used, kind, hused, hkind, hclassified⟩ := hlexeme
  rw [hused, List.cons_append]
  exact .token (hclassified rest hrest) (by rwa [List.take_left]) (by rwa [List.drop_left])

/-- Texts of tokens that are laid out anew make these tokens again. -/
theorem of_laidOut (hlexemes : ∀ lexeme ∈ lexemes, Delimited lexeme)
    (h : LaidOut (lexemes.map Prod.snd) chars) : Scans chars lexemes := by
  generalize hvalues : lexemes.map Prod.snd = values at h
  induction h generalizing lexemes with
  | nil =>
    obtain rfl := List.map_eq_nil_iff.mp hvalues
    exact .nil
  | @last value gap hgap =>
    obtain ⟨lexeme, rfl, rfl⟩ := List.map_eq_singleton_iff.mp hvalues
    obtain rfl | hgap := hgap
    · exact delimited_append (hlexemes lexeme (by simp)) .nil .nil
    · have hempty : Scans gap [] := by simpa using Scans.nil.gap hgap.gap
      exact delimited_append (hlexemes lexeme (by simp)) hgap.apart hempty
  | next hgap hrest ih =>
    obtain ⟨lexeme, others, rfl, rfl, hothers⟩ := List.map_eq_cons_iff.mp hvalues
    have hrest := ih (fun l hl => hlexemes l (List.mem_cons_of_mem _ hl)) hothers
    exact delimited_append (hlexemes lexeme (by simp)) (hgap.apart.append hgap.ne_nil _)
      (hrest.gap hgap.gap)

end Scans

/-! ## Whole texts -/

/-- The layout of a text is no part of what it means: a text that puts its tokens in the same order,
set apart by any gaps, is cut into the same tokens, and is the same program in either grammar. -/
theorem layout_irrelevant {source other : String} {tokens : List Token}
    (hsource : tokenize source = .ok tokens) {gap chars : List Char} (hgap : Gap gap)
    (hchars : LaidOut (tokens.dropLast.map Token.value) chars)
    (hother : other.toList = gap ++ chars) :
    ∃ others, tokenize other = .ok others ∧
      others.map Token.lexeme = tokens.map Token.lexeme ∧
      ∀ grammar body, parse grammar other = .ok body ↔ parse grammar source = .ok body := by
  obtain ⟨lexemes, hscans, hlexemes⟩ := Scans.of_tokenize hsource
  have hvalues : tokens.dropLast.map Token.value = lexemes.map Prod.snd := by
    have hdrop : (tokens.map Token.lexeme).dropLast = lexemes := by simp [hlexemes]
    rw [← hdrop, ← List.map_dropLast, List.map_map]
    rfl
  have hscans' : Scans other.toList lexemes := by
    rw [hother]
    exact (Scans.of_laidOut hscans.delimited (hvalues ▸ hchars)).gap hgap
  obtain ⟨others, htokenize, hothers⟩ := hscans'.tokenize
  have halike : others.map Token.lexeme = tokens.map Token.lexeme := hothers.trans hlexemes.symm
  refine ⟨others, htokenize, halike, fun grammar body => ⟨?_, ?_⟩⟩
  · exact parse_of_alike htokenize hsource (alike_of_map halike)
  · exact parse_of_alike hsource htokenize (alike_of_map halike.symm)

/-- A fraction stays one after a question mark, with comments and line ends put in. -/
theorem layout_of_choice :
    ∃ others, tokenize "/*c*/a\t? .5 //1\n\r: b\n" = .ok others ∧
      others.map Token.lexeme = [(.name, "a"), (.op, "?"), (.number, ".5"), (.op, ":"),
        (.name, "b"), (.endOfText, "")] := by
  have hsource : tokenize "a?.5:b" = .ok [⟨.name, "a", ⟨1, 1⟩⟩, ⟨.op, "?", ⟨1, 2⟩⟩,
      ⟨.number, ".5", ⟨1, 3⟩⟩, ⟨.op, ":", ⟨1, 5⟩⟩, ⟨.name, "b", ⟨1, 6⟩⟩,
      ⟨.endOfText, "", ⟨1, 7⟩⟩] := by cbv
  have hblank (c : Char) (h : isWhite c = true) : Spacing [c] :=
    ⟨.white h .nil, by simp, apart_cons.mpr h⟩
  have hcomment : Gap ['/', '*', 'c', '*', '/'] := @Gap.block ['c'] [] (by decide) .nil
  have hline : Spacing [' ', '/', '/', '1', '\n', '\r'] :=
    ⟨.white (by decide) (@Gap.line ['1'] ['\r'] (by decide) (.white (by decide) .nil)), by simp,
      apart_cons.mpr (by decide)⟩
  obtain ⟨others, hothers, hlexemes, -⟩ := layout_irrelevant hsource hcomment
    (.next (hblank '\t' (by decide)) <| .next (hblank ' ' (by decide)) <| .next hline <|
      .next (hblank ' ' (by decide)) <| .last (.inr (hblank '\n' (by decide))))
    (show "/*c*/a\t? .5 //1\n\r: b\n".toList = _ by decide)
  exact ⟨others, hothers, hlexemes⟩

end Canvasflow.Program
