import Canvasflow.Number.Numeral

/-!
# Tokens of program text

Program text is cut into pieces: comments, numerals, quoted texts, operators, words, line ends and
runs of blanks. A character that starts none of these is a piece of its own kind. The pieces are not
empty and join to the text again, which `flatten_pieces` states. Tokens are the pieces that mean
something, each with the line and column at which it starts.
-/

namespace Canvasflow.Program

/-- What a piece of program text is. -/
inductive PieceKind where
  | comment
  | number
  | text
  | op
  | word
  | lineEnd
  | blank
  | unknown
  deriving DecidableEq, Repr

/-- A piece of program text. -/
structure Piece where
  kind : PieceKind
  chars : List Char

/-- The words that are not names. -/
def keywords : List String :=
  ["const", "let", "var", "if", "else", "while", "for", "return", "true", "false", "null",
    "undefined"]

/-- The operators of more than one character; the first that matches is taken. -/
def longOperators : List String :=
  ["...", "===", "!==", "**", "==", "!=", "<=", ">=", "&&", "||", "??", "?.", "++", "--", "+=", "-=",
    "*=", "/=", "%="]

/-- The operators of one character. -/
def shortOperators : List Char :=
  ['+', '-', '*', '/', '%', '<', '>', '=', '!', '?', ':', ',', ';', '.', '(', ')', '\x7b', '\x7d',
    '[', ']']

/-- Whether a word may start with the character. -/
def startsWord (c : Char) : Bool :=
  ('a' ≤ c && c ≤ 'z') || ('A' ≤ c && c ≤ 'Z') || c = '_' || c = '$'

/-- Whether a word may go on with the character. -/
def continuesWord (c : Char) : Bool :=
  startsWord c || ('0' ≤ c && c ≤ '9')

/-- Whether the character is a blank within a line. -/
def isLineBlank (c : Char) : Bool :=
  c = ' ' || c = '\t' || c = '\r'

/-- The number of characters up to and with the mark that closes a block comment. -/
def blockCommentLength? : List Char → Option Nat
  | [] => none
  | '*' :: '/' :: _ => some 2
  | _ :: rest => (blockCommentLength? rest).map (· + 1)

/-- The number of characters of a comment after its first slash. -/
def commentLength? : List Char → Option Nat
  | '/' :: rest => some (1 + (rest.takeWhile (· ≠ '\n')).length)
  | '*' :: rest => (blockCommentLength? rest).map (· + 1)
  | _ => none

/-- The number of characters of a quoted text after its opening quote: a backslash takes the next
character with it, whatever that is, and a bare line end is not allowed. -/
def quotedLength? (quote : Char) : List Char → Option Nat
  | [] => none
  | '\\' :: [] => none
  | '\\' :: _ :: rest => (quotedLength? quote rest).map (· + 2)
  | c :: rest =>
    if c = quote then some 1
    else if c = '\n' then none
    else (quotedLength? quote rest).map (· + 1)

/-- The number of characters of the numeral at the front of a text. -/
def numeralLength? (chars : List Char) : Option Nat :=
  (Numeral.parts? chars).map fun (_, rest) => chars.length - rest.length

/-- The number of characters of the operator at the front of a text. An optional dot is not read
before a digit, so that a conditional may be followed by a fraction. -/
def operatorLength? (chars : List Char) : Option Nat :=
  let long := longOperators.find? fun op =>
    op.toList.isPrefixOf chars &&
      !(op == "?." && ((chars.drop 2).head?.map Text.isDigit).getD false)
  match long, chars with
  | some op, _ => some op.length
  | none, c :: _ => if shortOperators.contains c then some 1 else none
  | none, [] => none

/-- The kind of the piece that starts with `c`, and how many of the characters after `c` belong to
it. -/
def classifyPiece (c : Char) (rest : List Char) : PieceKind × Nat :=
  let comment := if c = '/' then commentLength? rest else none
  match comment with
  | some extra => (.comment, extra)
  | none => match numeralLength? (c :: rest) with
    | some length => (.number, length - 1)
    | none => match if c = '"' ∨ c = '\'' then quotedLength? c rest else none with
      | some extra => (.text, extra)
      | none => match operatorLength? (c :: rest) with
        | some length => (.op, length - 1)
        | none =>
          if startsWord c then (.word, (rest.takeWhile continuesWord).length)
          else if c = '\n' then (.lineEnd, 0)
          else if isLineBlank c then (.blank, (rest.takeWhile isLineBlank).length)
          else (.unknown, 0)

/-- Cut a text into pieces. -/
def pieces (chars : List Char) : List Piece :=
  match chars with
  | [] => []
  | c :: rest =>
    let found := classifyPiece c rest
    ⟨found.1, c :: rest.take found.2⟩ :: pieces (rest.drop found.2)
termination_by chars.length
decreasing_by
  simp only [List.length_drop, List.length_cons]
  omega

/-- The pieces of a text join to the text. -/
theorem flatten_pieces (chars : List Char) :
    ((pieces chars).map Piece.chars).flatten = chars := by
  fun_induction pieces chars with
  | case1 => rfl
  | case2 c rest found ih => simp [ih]

/-- No piece of a text is empty. -/
theorem ne_nil_of_mem_pieces {chars : List Char} {piece : Piece} (h : piece ∈ pieces chars) :
    piece.chars ≠ [] := by
  fun_induction pieces chars with
  | case1 => simp at h
  | case2 c rest found ih =>
    rcases List.mem_cons.1 h with rfl | h
    · simp
    · exact ih h

/-- A place in a text: line and column count from one. -/
structure Position where
  line : Nat
  column : Nat
  deriving DecidableEq, Repr

/-- The first place of a text. -/
def Position.start : Position := ⟨1, 1⟩

/-- The place after one more character. -/
def Position.step (position : Position) (c : Char) : Position :=
  if c = '\n' then ⟨position.line + 1, 1⟩ else ⟨position.line, position.column + 1⟩

/-- The place after some more characters. -/
def Position.advance (position : Position) (chars : List Char) : Position :=
  chars.foldl Position.step position

/-- What a token is. -/
inductive TokenKind where
  | number
  | text
  | name
  | keyword
  | op
  | endOfText
  deriving DecidableEq, Repr

/-- The name of a kind of token in messages. -/
def TokenKind.label : TokenKind → String
  | number => "NUMBER"
  | text => "STRING"
  | name => "ID"
  | keyword => "KW"
  | op => "OP"
  | endOfText => "EOF"

/-- A token: its kind, the text it stands for, and where it starts. -/
structure Token where
  kind : TokenKind
  value : String
  position : Position
  deriving DecidableEq, Repr

/-- How a token is named in messages: by its text, or by its kind at the end of the text. -/
def Token.shown (token : Token) : String :=
  if token.value.isEmpty then token.kind.label else token.value

/-- The kind of token that a piece makes, if it makes one. -/
def Piece.tokenKind? (piece : Piece) : Option TokenKind :=
  match piece.kind with
  | .number => some .number
  | .text => some .text
  | .op => some .op
  | .word => some (if keywords.contains (String.ofList piece.chars) then .keyword else .name)
  | .comment | .lineEnd | .blank | .unknown => none

/-- The tokens of some pieces that start at a place, and at last the end of the text. A character
that starts no piece is returned with its place instead. -/
def tokensFrom (position : Position) : List Piece → Except (Char × Position) (List Token)
  | [] => .ok [⟨.endOfText, "", position⟩]
  | piece :: rest =>
    match piece.kind, piece.chars with
    | .unknown, c :: _ => .error (c, position)
    | _, chars => do
      let following ← tokensFrom (position.advance chars) rest
      match piece.tokenKind? with
      | some kind => .ok (⟨kind, String.ofList chars, position⟩ :: following)
      | none => .ok following

/-- The character that a letter after a backslash stands for. -/
def escapedChar (c : Char) : Char :=
  match c with
  | 'n' => '\n'
  | 't' => '\t'
  | 'r' => '\r'
  | '0' => Char.ofNat 0
  | 'b' => Char.ofNat 8
  | 'f' => Char.ofNat 12
  | 'v' => Char.ofNat 11
  | other => other

/-- Resolve the escapes of a text: a backslash and the character after it become one character, but
a backslash before a line end stays, as does one at the very end. -/
def unescape : List Char → List Char
  | [] => []
  | [c] => [c]
  | '\\' :: c :: rest =>
    if c = '\n' then '\\' :: '\n' :: unescape rest else escapedChar c :: unescape rest
  | c :: rest => c :: unescape rest

/-- The text that a quoted piece stands for. -/
def unquote (literal : String) : String :=
  String.ofList (unescape ((literal.toList.drop 1).dropLast))

example : unquote "'a\\'b\\n'" = "a'b\n" := by decide +kernel

end Canvasflow.Program
