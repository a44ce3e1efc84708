import Canvasflow.Proofs.Program.Layout

/-!
# Quoted texts

The body of a quoted text is cut into characters that stand for themselves and pairs of a backslash
and a character. The scanner and `unescape` cut it alike, so a quoted text is decoded pair by pair,
with one exception: a pair with a line end is taken into the text by the scanner and then left as it
is. `quoted_texts` says this of every token, and of the texts that are written with escapes.
-/

namespace Canvasflow.Program

/-- A part of the body of a quoted text. -/
inductive TextPart where
  | plain (c : Char)
  | pair (c : Char)
  deriving DecidableEq

namespace TextPart

/-- The characters of a part. -/
def written : TextPart → List Char
  | plain c => [c]
  | pair c => ['\\', c]

/-- Whether a part may stand between two quotes. -/
def Allowed (quote : Char) : TextPart → Prop
  | plain c => c ≠ quote ∧ c ≠ '\\' ∧ c ≠ '\n'
  | pair _ => True

/-- The one character that a part means. -/
def meant : TextPart → Char
  | plain c => c
  | pair c => escapedChar c

/-- What a part is decoded to: a pair with a line end stays. -/
def decoded : TextPart → List Char
  | plain c => [c]
  | pair c => if c = '\n' then ['\\', '\n'] else [escapedChar c]

/-- The parts of a body, from left to right. -/
def ofBody : List Char → List TextPart
  | [] => []
  | [c] => [plain c]
  | '\\' :: c :: rest => pair c :: ofBody rest
  | c :: rest => plain c :: ofBody rest

theorem ofBody_cons {c : Char} (h : c ≠ '\\') (rest : List Char) :
    ofBody (c :: rest) = plain c :: ofBody rest := by
  cases rest with
  | nil => rfl
  | cons d rest => simp [ofBody, h]

theorem flatMap_written (body : List Char) : (ofBody body).flatMap written = body := by
  fun_induction ofBody body <;> simp_all [written]

theorem flatMap_decoded (body : List Char) : (ofBody body).flatMap decoded = unescape body := by
  fun_induction ofBody body with
  | case1 | case2 => rfl
  | case3 c rest ih =>
    rw [List.flatMap_cons, ih, decoded, unescape]
    split_ifs <;> rfl
  | case4 c rest hnil hback ih =>
    rw [List.flatMap_cons, ih, decoded]
    have hc : c ≠ '\\' := by
      rintro rfl
      cases rest <;> simp at hnil hback
    cases rest <;> simp_all [unescape]

/-- Parts are decoded to what they mean exactly if there is no pair with a line end. -/
theorem flatMap_decoded_eq_iff (parts : List TextPart) :
    parts.flatMap decoded = parts.map meant ↔ pair '\n' ∉ parts := by
  -- each such pair makes the decoded text longer than it has parts
  have hlength : (parts.flatMap decoded).length = parts.length + parts.count (pair '\n') := by
    induction parts with
    | nil => rfl
    | cons part parts ih =>
      have hpart : part.decoded.length = 1 + if part = pair '\n' then 1 else 0 := by
        cases part with
        | plain c => simp [decoded]
        | pair c => by_cases hline : c = '\n' <;> simp [decoded, hline]
      rw [List.flatMap_cons, List.length_append, List.length_cons, List.count_cons, ih, hpart]
      simp only [beq_iff_eq]
      omega
  constructor
  · intro heq hmem
    have hcount := List.count_pos_iff.mpr hmem
    rw [heq, List.length_map] at hlength
    omega
  · intro hnot
    rw [List.map_eq_flatMap]
    refine List.flatMap_congr fun part hpart => ?_
    cases part with
    | plain c => rfl
    | pair c =>
      have hline : c ≠ '\n' := by
        rintro rfl
        exact hnot hpart
      rw [decoded, if_neg hline, meant]

end TextPart

open TextPart (ofBody)

/-! ## Bodies between quotes -/

/-- A text is closed by the first quote that is no part of a pair. -/
theorem quotedLength?_eq_some_iff {quote : Char} (hquote : quote ≠ '\\') {chars : List Char}
    {n : Nat} : quotedLength? quote chars = some n ↔
      ∃ body rest, chars = body ++ quote :: rest ∧ n = body.length + 1 ∧
        ∀ part ∈ ofBody body, part.Allowed quote := by
  constructor
  · intro h
    fun_induction quotedLength? quote chars generalizing n with
    | case1 | case2 => cases h
    | case3 c chars ih =>
      obtain ⟨m, hm, rfl⟩ := Option.map_eq_some_iff.mp h
      obtain ⟨body, rest, rfl, rfl, hbody⟩ := ih hm
      exact ⟨'\\' :: c :: body, rest, rfl, rfl, List.forall_mem_cons.mpr ⟨trivial, hbody⟩⟩
    | case4 chars => exact ⟨[], chars, rfl, (Option.some.inj h).symm, List.forall_mem_nil _⟩
    | case5 => cases h
    | case6 c chars hescape hescape' hne hline ih =>
      have hc : c ≠ '\\' := by
        rintro rfl
        cases chars <;> simp at hescape hescape'
      obtain ⟨m, hm, rfl⟩ := Option.map_eq_some_iff.mp h
      obtain ⟨body, rest, rfl, rfl, hbody⟩ := ih hm
      refine ⟨c :: body, rest, rfl, rfl, ?_⟩
      rw [TextPart.ofBody_cons hc]
      exact List.forall_mem_cons.mpr ⟨⟨hne, hc, hline⟩, hbody⟩
  · rintro ⟨body, rest, rfl, rfl, hbody⟩
    fun_induction ofBody body with
    | case1 => simp [quotedLength?_cons hquote]
    | case2 c =>
      obtain ⟨hne, hc, hline⟩ := hbody (.plain c) List.mem_cons_self
      simp [quotedLength?_cons hc, quotedLength?_cons hquote, hne, hline]
    | case3 c body ih =>
      have hrest := ih (List.forall_mem_cons.mp hbody).2
      simp [quotedLength?, hrest]
    | case4 c body hnil hback ih =>
      obtain ⟨⟨hne, hc, hline⟩, hbody⟩ := List.forall_mem_cons.mp hbody
      simp [quotedLength?_cons hc, hne, hline, ih hbody]

/-- Whether a character opens a quoted text. -/
def IsQuote (quote : Char) : Prop :=
  quote = '"' ∨ quote = '\''

theorem IsQuote.ne_backslash {quote : Char} (h : IsQuote quote) : quote ≠ '\\' := by
  obtain rfl | rfl := h <;> decide

theorem unquote_of_toList {literal : String} {quote : Char} {body : List Char}
    (h : literal.toList = quote :: (body ++ [quote])) :
    unquote literal = String.ofList ((ofBody body).flatMap TextPart.decoded) := by
  rw [unquote, h, List.drop_succ_cons, List.drop_zero, List.dropLast_concat,
    TextPart.flatMap_decoded]

/-- Only a quoted text makes a token of its kind. -/
theorem Piece.kind_of_tokenKind? {piece : Piece} (h : piece.tokenKind? = some .text) :
    piece.kind = .text := by
  unfold Piece.tokenKind? at h
  split at h
  case h_2 hkind => exact hkind
  case h_4 => split_ifs at h <;> cases h
  all_goals cases h

/-- A token of a quoted text is a body between two quotes. -/
theorem body_of_mem {source : String} {tokens : List Token} {token : Token}
    (h : tokenize source = .ok tokens) (htoken : token ∈ tokens) (hkind : token.kind = .text) :
    ∃ quote body, IsQuote quote ∧ token.value.toList = quote :: (body ++ [quote]) ∧
      ∀ part ∈ ofBody body, part.Allowed quote := by
  obtain ⟨lexemes, hscans, hlexemes⟩ := Scans.of_tokenize h
  have hmem : token.lexeme ∈ lexemes := by
    have hmem : token.lexeme ∈ lexemes ++ [endLexeme] := hlexemes ▸ List.mem_map_of_mem htoken
    refine (List.mem_append.mp hmem).resolve_right fun hend => ?_
    have hkind' := congrArg Prod.fst (List.mem_singleton.mp hend)
    rw [Token.lexeme, hkind] at hkind'
    cases hkind'
  obtain ⟨quote, chars, kind, hvalue, hlexeme, hclassified⟩ := hscans.delimited _ hmem
  obtain ⟨tokenKind, hpiece, htext⟩ := Option.map_eq_some_iff.mp hlexeme
  have htokenKind : tokenKind = .text := (congrArg Prod.fst htext).trans hkind
  obtain rfl : kind = .text := Piece.kind_of_tokenKind? (htokenKind ▸ hpiece)
  have hclassified := hclassified [] .nil
  rw [List.append_nil] at hclassified
  generalize hn : chars.length = n at hclassified
  cases hclassified with
  | text hquote hlength =>
    have hquote : IsQuote quote := hquote
    obtain ⟨body, rest, rfl, rfl, hbody⟩ :=
      (quotedLength?_eq_some_iff hquote.ne_backslash).mp hlength
    have hrest : rest = [] := by
      rw [List.length_append, List.length_cons] at hn
      exact List.length_eq_zero_iff.mp (by omega)
    exact ⟨quote, body, hquote, hrest ▸ hvalue, hbody⟩

/-! ## Texts with escapes -/

/-- A character of a text in the given quotes, with a backslash if it needs one. -/
def TextPart.ofChar (quote c : Char) : TextPart :=
  if c = quote ∨ c = '\\' ∨ c = '\n' then .pair c else .plain c

/-- A text in the given quotes, with a backslash in front of quotes, backslashes and line ends. -/
def slashedText (quote : Char) (text : String) : String :=
  String.ofList
    (quote :: (text.toList.flatMap (fun c => (TextPart.ofChar quote c).written) ++ [quote]))

theorem ofBody_flatMap_ofChar (quote : Char) (chars : List Char) :
    ofBody (chars.flatMap fun c => (TextPart.ofChar quote c).written) =
      chars.map (TextPart.ofChar quote) := by
  induction chars with
  | nil => rfl
  | cons c chars ih =>
    rw [List.flatMap_cons, List.map_cons, TextPart.ofChar, ← ih]
    split_ifs with hslash
    · rfl
    · exact TextPart.ofBody_cons (fun hc => hslash (.inr (.inl hc))) _

theorem TextPart.allowed_ofChar (quote c : Char) : (TextPart.ofChar quote c).Allowed quote := by
  unfold ofChar
  split_ifs with hslash
  · trivial
  · exact not_or.mp hslash |>.imp_right not_or.mp

theorem TextPart.meant_ofChar {quote : Char} (hquote : IsQuote quote) (c : Char) :
    (TextPart.ofChar quote c).meant = c := by
  unfold ofChar
  split_ifs with hslash
  · obtain rfl | rfl := hquote <;> obtain rfl | rfl | rfl := hslash <;> rfl
  · rfl

theorem pair_mem_map_ofChar (quote : Char) (chars : List Char) :
    TextPart.pair '\n' ∈ chars.map (TextPart.ofChar quote) ↔ '\n' ∈ chars := by
  rw [List.mem_map]
  constructor
  · rintro ⟨c, hc, hpair⟩
    unfold TextPart.ofChar at hpair
    split_ifs at hpair
    cases hpair
    exact hc
  · exact fun hline => ⟨'\n', hline, if_pos (.inr (.inr rfl))⟩

theorem unquote_slashedText_parts (quote : Char) (text : String) :
    unquote (slashedText quote text) =
      String.ofList ((text.toList.map (TextPart.ofChar quote)).flatMap TextPart.decoded) := by
  rw [slashedText, unquote_of_toList String.toList_ofList, ofBody_flatMap_ofChar]

section Slashed

variable {quote : Char} (hquote : IsQuote quote)

include hquote

/-- A text with escapes is closed by its last quote, whatever follows. -/
theorem classified_slashed (chars rest : List Char) :
    let body := chars.flatMap fun c => (TextPart.ofChar quote c).written
    Classified quote (body ++ quote :: rest) .text (body.length + 1) := by
  intro body
  refine .text hquote ((quotedLength?_eq_some_iff hquote.ne_backslash).mpr
    ⟨body, rest, rfl, rfl, ?_⟩)
  rw [ofBody_flatMap_ofChar, List.forall_mem_map]
  exact fun c _ => TextPart.allowed_ofChar quote c

theorem pieces_slashedText (text : String) (rest : List Char) :
    pieces ((slashedText quote text).toList ++ rest) =
      ⟨.text, (slashedText quote text).toList⟩ :: pieces rest := by
  have hpiece := (classified_slashed hquote text.toList rest).eq
  rw [slashedText, String.toList_ofList, List.cons_append, List.append_assoc,
    List.singleton_append, pieces, hpiece, List.take_length_add_append, List.drop_length_add_append]
  rfl

theorem scans_slashedText (text : String) :
    Scans (slashedText quote text).toList [(.text, slashedText quote text)] := by
  rw [slashedText, String.toList_ofList]
  refine .token (classified_slashed hquote text.toList []) ?_ ?_
  · rw [List.take_length_add_append]
    rfl
  · rw [List.drop_length_add_append]
    exact .nil

theorem TextPart.decoded_ofChar (c : Char) :
    (TextPart.ofChar quote c).decoded = if c = '\n' then ['\\', '\n'] else [c] := by
  by_cases hline : c = '\n'
  · subst hline
    rw [if_pos rfl, ofChar, if_pos (.inr (.inr rfl))]
    rfl
  · have hmeant := meant_ofChar hquote c
    rw [if_neg hline]
    unfold ofChar at hmeant ⊢
    split_ifs at hmeant ⊢ with hslash
    · rw [decoded, if_neg hline, ← meant, hmeant]
    · rfl

theorem unquote_slashedText (text : String) :
    unquote (slashedText quote text) =
      String.ofList (text.toList.flatMap fun c => if c = '\n' then ['\\', '\n'] else [c]) := by
  rw [unquote_slashedText_parts, List.flatMap_map]
  simp only [TextPart.decoded_ofChar hquote]

theorem unquote_slashedText_eq_iff (text : String) :
    unquote (slashedText quote text) = text ↔ '\n' ∉ text.toList := by
  have hmeant : (text.toList.map (TextPart.ofChar quote)).map TextPart.meant = text.toList := by
    rw [List.map_map]
    exact List.map_id'' (TextPart.meant_ofChar hquote) _
  rw [← pair_mem_map_ofChar quote, ← TextPart.flatMap_decoded_eq_iff, hmeant,
    unquote_slashedText_parts, ← String.toList_inj, String.toList_ofList]

end Slashed

/-- Quoted texts are decoded part by part, except for pairs of a backslash and a line end. Between
the quotes of a token there are parts that may stand there, and the token is decoded to what these
mean exactly if there is no such pair, which stays as it is. So a text that is written with a
backslash in front of every quote, backslash and line end is one token wherever it stands, and is
read back exactly if it has no line end; each line end keeps its backslash. -/
theorem quoted_texts (source text : String) :
    (∀ tokens token, tokenize source = .ok tokens → token ∈ tokens → token.kind = .text →
      ∃ quote, ∃ parts : List TextPart, IsQuote quote ∧
        token.value.toList = quote :: (parts.flatMap TextPart.written ++ [quote]) ∧
        (∀ part ∈ parts, part.Allowed quote) ∧
        unquote token.value = String.ofList (parts.flatMap TextPart.decoded) ∧
        (unquote token.value = String.ofList (parts.map TextPart.meant) ↔ .pair '\n' ∉ parts)) ∧
    ∀ quote, IsQuote quote →
      (∃ tokens, tokenize (slashedText quote text) = .ok tokens ∧
        tokens.map Token.lexeme = [(.text, slashedText quote text), endLexeme]) ∧
      (∀ rest, pieces ((slashedText quote text).toList ++ rest) =
        ⟨.text, (slashedText quote text).toList⟩ :: pieces rest) ∧
      unquote (slashedText quote text) =
        String.ofList (text.toList.flatMap fun c => if c = '\n' then ['\\', '\n'] else [c]) ∧
      (unquote (slashedText quote text) = text ↔ '\n' ∉ text.toList) := by
  refine ⟨fun tokens token h htoken hkind => ?_, fun quote hquote => ?_⟩
  · obtain ⟨quote, body, hquote, hvalue, hbody⟩ := body_of_mem h htoken hkind
    have hparts : token.value.toList =
        quote :: ((ofBody body).flatMap TextPart.written ++ [quote]) := by
      rw [TextPart.flatMap_written, hvalue]
    refine ⟨quote, ofBody body, hquote, hparts, hbody, unquote_of_toList hvalue, ?_⟩
    rw [unquote_of_toList hvalue, ← TextPart.flatMap_decoded_eq_iff, String.ofList_inj]
  · exact ⟨(scans_slashedText hquote text).tokenize, pieces_slashedText hquote text,
      unquote_slashedText hquote text, unquote_slashedText_eq_iff hquote text⟩

/-- A backslash before a line end stays in the text, one before a quote does not. -/
theorem quoted_texts_of_line_end :
    (∃ tokens, ∃ token ∈ tokens, tokenize "'a\\\nb'" = .ok tokens ∧
      token.lexeme = (.text, "'a\\\nb'") ∧
      ∃ parts : List TextPart, String.ofList (parts.flatMap TextPart.decoded) = "a\\\nb") ∧
    unquote "\"\\\"c'\"" = "\"c'" := by
  have hsource := quoted_texts "'a\\\nb'" "a\nb"
  have hline := hsource.2 '\'' (.inr rfl)
  have hquotes := (quoted_texts "" "\"c'").2 '"' (.inl rfl)
  obtain ⟨tokens, htokens, hlexemes⟩ := hline.1
  have hmem : (.text, "'a\\\nb'") ∈ tokens.map Token.lexeme := hlexemes ▸ List.mem_cons_self
  obtain ⟨token, htoken, hlexeme⟩ := List.mem_map.mp hmem
  obtain ⟨hkind, hvalue⟩ := Prod.mk.inj hlexeme
  obtain ⟨quote, parts, -, -, -, hdecoded, -⟩ := hsource.1 tokens token htokens htoken hkind
  have hvalue : unquote token.value = "a\\\nb" := (congrArg unquote hvalue).trans (by decide)
  exact ⟨⟨tokens, token, htoken, htokens, hlexeme, parts, hdecoded.symm.trans hvalue⟩,
    hquotes.2.2.2.mpr (by decide)⟩

end Canvasflow.Program
