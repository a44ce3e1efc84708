import Canvasflow.Text.CaseTable

/-!
# Letter case

Upper case and lower case of a text by the full Unicode maps: a letter may become several, and a
capital sigma becomes the final form at the end of a word. Every character becomes at least one and
at most three.
-/

namespace Canvasflow.Text

/-- The code point that a case map gives, by its rows. -/
def shiftCase (rows : Array (Nat × Nat × Nat × Int)) (c : Char) : Char :=
  match rows.find? fun row =>
      row.1 ≤ c.toNat && c.toNat ≤ row.2.1 && (c.toNat - row.1) % row.2.2.1 == 0 with
  | some row => Char.ofNat ((c.toNat : Int) + row.2.2.2).toNat
  | none => c

/-- The upper case of one character. -/
def upperChar (c : Char) : List Char :=
  if c.toNat < 0x80 then [c.toUpper]
  else match upperExpansions.find? fun row => row.1 == c.toNat with
    | some row => row.2.map Char.ofNat
    | none => [shiftCase upperRows c]

/-- The upper case of a text. -/
def upper (text : String) : String :=
  String.ofList (text.toList.flatMap upperChar)

/-- The lower case of one character, a capital sigma apart. -/
def lowerChar (c : Char) : List Char :=
  if c.toNat < 0x80 then [c.toLower]
  else if c.toNat = 0x130 then [Char.ofNat 0x69, Char.ofNat 0x307]
  else [shiftCase lowerRows c]

/-- Whether the first character that is not looked through has case. -/
def startsCased (chars : List Char) : Bool :=
  match chars.dropWhile fun c => caseIgnorableRanges.contains c.toNat with
  | [] => false
  | c :: _ => casedRanges.contains c.toNat

/-- Whether a capital sigma with these neighbours, both given nearest first, ends a word. -/
def endsWord (before after : List Char) : Bool :=
  startsCased before && !startsCased after

/-- Append the lower case of the remaining characters to `done`; `before` holds the characters read
so far, and both lists are given last character first. -/
def lowerOnto (done before : List Char) : List Char → List Char
  | [] => done.reverse
  | c :: rest =>
    let lowered :=
      if c.toNat = 0x3A3 then [Char.ofNat (if endsWord before rest then 0x3C2 else 0x3C3)]
      else lowerChar c
    lowerOnto (lowered.reverse ++ done) (c :: before) rest

/-- The lower case of a text; a capital sigma that ends a word becomes the final form. -/
def lower (text : String) : String :=
  String.ofList (lowerOnto [] [] text.toList)

end Canvasflow.Text
