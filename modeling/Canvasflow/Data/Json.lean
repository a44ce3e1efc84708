import Canvasflow.Data

/-!
# JSON text

A reader for JSON text that keeps integers and doubles apart, accepts the literals for infinities
and for what is not a number, and lets the last of several equal keys win. A number is an integer
when it has neither a fraction nor an exponent. The reader reports three kinds of failure:
malformed text, an integer with too many digits, and nesting beyond a limit. A printer writes data
in one line.
-/

namespace Canvasflow.Json

open Canvasflow.Text

/-- Why a text is not read. -/
inductive Fault where
  | malformed
  | integerTooLong
  | nestedTooDeeply
  deriving DecidableEq, Repr

/-- The number of lists and records that may be nested. -/
def nestingLimit : Nat := 900

/-- Whether the character may stand between tokens. -/
def isGap (c : Char) : Bool :=
  c = ' ' || c = '\t' || c = '\n' || c = '\r'

/-- The text without the gap in front. -/
def skipGap (chars : List Char) : List Char :=
  chars.dropWhile isGap

/-- Whether the character is an ASCII digit. -/
def isAsciiDigit (c : Char) : Bool :=
  '0' ≤ c && c ≤ '9'

/-- The code unit that four hexadecimal digits write, and what follows them. -/
def codeUnit? : List Char → Option (Nat × List Char)
  | a :: b :: c :: d :: rest => (Numeral.hex? [a, b, c, d]).map fun n => (n, rest)
  | _ => none

/-- The character that an escape `\u` writes, and what follows; the two halves of a pair of
surrogates make one character, and a lone half is replaced. -/
def unicodeEscape? (chars : List Char) : Option (Char × List Char) := do
  let (unit, rest) ← codeUnit? chars
  if 0xD800 ≤ unit ∧ unit < 0xDC00 then
    match rest with
    | '\\' :: 'u' :: more =>
      match codeUnit? more with
      | some (low, after) =>
        if 0xDC00 ≤ low ∧ low < 0xE000 then
          some (Char.ofNat (0x10000 + (unit - 0xD800) * 0x400 + (low - 0xDC00)), after)
        else some (Char.ofNat 0xFFFD, rest)
      | none => some (Char.ofNat 0xFFFD, rest)
    | _ => some (Char.ofNat 0xFFFD, rest)
  else if 0xDC00 ≤ unit ∧ unit < 0xE000 then some (Char.ofNat 0xFFFD, rest)
  else some (Char.ofNat unit, rest)

/-- The character that a backslash and the given letter write. -/
def simpleEscape? : Char → Option Char
  | '"' => some '"'
  | '\\' => some '\\'
  | '/' => some '/'
  | 'b' => some (Char.ofNat 8)
  | 'f' => some (Char.ofNat 12)
  | 'n' => some '\n'
  | 'r' => some '\r'
  | 't' => some '\t'
  | _ => none

/-- Read the rest of a text after its opening quote. `done` holds the characters read so far, last
first, and `fuel` bounds the characters. -/
def readText : Nat → List Char → List Char → Except Fault (String × List Char)
  | 0, _, _ => .error .malformed
  | fuel + 1, done, chars => match chars with
    | [] => .error .malformed
    | '"' :: rest => .ok (String.ofList done.reverse, rest)
    | '\\' :: 'u' :: rest => match unicodeEscape? rest with
      | some (c, after) => readText fuel (c :: done) after
      | none => .error .malformed
    | '\\' :: letter :: rest => match simpleEscape? letter with
      | some c => readText fuel (c :: done) rest
      | none => .error .malformed
    | c :: rest => if c.toNat < 0x20 then .error .malformed else readText fuel (c :: done) rest

/-- The whole part of a number without its sign: a single zero, or a run that starts otherwise. -/
def wholePart? : List Char → Option (List Char × List Char)
  | '0' :: rest => some (['0'], rest)
  | chars =>
    let run := chars.takeWhile isAsciiDigit
    if run.isEmpty then none else some (run, chars.dropWhile isAsciiDigit)

/-- A fraction: a point and at least one digit. -/
def fractionPart : List Char → List Char × List Char
  | '.' :: rest =>
    let run := rest.takeWhile isAsciiDigit
    if run.isEmpty then ([], '.' :: rest) else (run, rest.dropWhile isAsciiDigit)
  | chars => ([], chars)

/-- An exponent, if there is one. -/
def exponentPart (chars : List Char) : Option Int × List Char :=
  match chars with
  | [] => (none, [])
  | letter :: rest =>
    if letter = 'e' ∨ letter = 'E' then
      let (negative, digits) := Numeral.sign rest
      let run := digits.takeWhile isAsciiDigit
      if run.isEmpty then (none, chars)
      else
        let n : Int := digitsValue run
        (some (if negative then -n else n), digits.dropWhile isAsciiDigit)
    else (none, chars)

/-- Read a number after its sign. -/
def readNumber (negative : Bool) (chars : List Char) : Except Fault (Data × List Char) :=
  match wholePart? chars with
  | none => .error .malformed
  | some (whole, afterWhole) =>
    let (fraction, afterFraction) := fractionPart afterWhole
    let (power, rest) := exponentPart afterFraction
    if fraction.isEmpty && power.isNone then
      if Numeral.digitLimit < whole.length then .error .integerTooLong
      else
        let n : Int := digitsValue whole
        .ok (.int (if negative then -n else n), rest)
    else
      let parts : Numeral.Parts := ⟨whole, fraction, power.getD 0⟩
      .ok (.double (Double.withSign negative parts.value), rest)

/-- What follows the given word, if the text starts with it. -/
def afterWord? : List Char → List Char → Option (List Char)
  | [], rest => some rest
  | _ :: _, [] => none
  | expected :: word, c :: rest => if expected = c then afterWord? word rest else none

/-- The values that are written as words. -/
def words : List (String × Data) :=
  [("null", .null), ("true", .bool true), ("false", .bool false), ("NaN", .double Double.notANumber),
    ("Infinity", .double Double.infinity), ("-Infinity", .double (-Double.infinity))]

/-- Read a value that is neither a text, a list nor a record. -/
def readScalar (chars : List Char) : Except Fault (Data × List Char) :=
  match words.findSome? fun word => (afterWord? word.1.toList chars).map fun rest => (word.2, rest) with
  | some found => .ok found
  | none => match chars with
    | '-' :: rest => readNumber true rest
    | _ => readNumber false chars

mutual

/-- Read a value at the front of a text that starts with no gap. `room` is the nesting that is
left. -/
def readValue (fuel room : Nat) (chars : List Char) : Except Fault (Data × List Char) :=
  match fuel with
  | 0 => .error .malformed
  | fuel + 1 => match chars with
    | '"' :: rest => do
      let (text, after) ← readText (rest.length + 1) [] rest
      .ok (.str text, after)
    | '[' :: rest => match room, skipGap rest with
      | 0, _ => .error .nestedTooDeeply
      | _, ']' :: after => .ok (.list [], after)
      | room + 1, inner => do
        let (items, after) ← readItems fuel room inner
        .ok (.list items, after)
    | '\x7b' :: rest => match room, skipGap rest with
      | 0, _ => .error .nestedTooDeeply
      | _, '\x7d' :: after => .ok (.record [], after)
      | room + 1, inner => do
        let (fields, after) ← readFields fuel room inner
        .ok (.record (Entries.ofList fields), after)
    | _ => readScalar chars

/-- Read the items of a list up to its closing bracket. -/
def readItems (fuel room : Nat) (chars : List Char) : Except Fault (List Data × List Char) :=
  match fuel with
  | 0 => .error .malformed
  | fuel + 1 => do
    let (item, after) ← readValue fuel room chars
    match skipGap after with
    | ']' :: rest => .ok ([item], rest)
    | ',' :: rest => do
      let (items, last) ← readItems fuel room (skipGap rest)
      .ok (item :: items, last)
    | _ => .error .malformed

/-- Read the fields of a record up to its closing brace. -/
def readFields (fuel room : Nat) (chars : List Char) :
    Except Fault (List (String × Data) × List Char) :=
  match fuel with
  | 0 => .error .malformed
  | fuel + 1 => match chars with
    | '"' :: rest => do
      let (key, afterKey) ← readText (rest.length + 1) [] rest
      match skipGap afterKey with
      | ':' :: inner => do
        let (value, after) ← readValue fuel room (skipGap inner)
        match skipGap after with
        | '\x7d' :: rest => .ok ([(key, value)], rest)
        | ',' :: rest => do
          let (fields, last) ← readFields fuel room (skipGap rest)
          .ok ((key, value) :: fields, last)
        | _ => .error .malformed
      | _ => .error .malformed
    | _ => .error .malformed

end

/-- Read a text that holds one value. -/
def read (text : String) : Except Fault Data := do
  let chars := skipGap text.toList
  let (value, rest) ← readValue (2 * chars.length + 2) nestingLimit chars
  if (skipGap rest).isEmpty then .ok value else .error .malformed

/-- One character of a written text. -/
def writeChar (c : Char) : List Char :=
  if c = '"' ∨ c = '\\' then ['\\', c]
  else if c = '\n' then ['\\', 'n']
  else if c = '\r' then ['\\', 'r']
  else if c = '\t' then ['\\', 't']
  else if 0x20 ≤ c.toNat ∧ c.toNat < 0x7F then [c]
  else if c.toNat < 0x10000 then '\\' :: 'u' :: hexDigits 4 c.toNat
  else
    let offset := c.toNat - 0x10000
    '\\' :: 'u' :: hexDigits 4 (0xD800 + offset / 0x400) ++
      '\\' :: 'u' :: hexDigits 4 (0xDC00 + offset % 0x400)

/-- A written text, with its quotes. -/
def writeText (text : String) : String :=
  String.ofList ('"' :: text.toList.flatMap writeChar ++ ['"'])

/-- A written number. -/
def writeNumber : Number → String
  | .int value => toString value
  | .double x =>
    if x.isNaN then "NaN"
    else if x.isInf then (if x < 0 then "-Infinity" else "Infinity")
    else Double.plain x

mutual

/-- Write data in one line. -/
def write : Data → String
  | .null => "null"
  | .bool value => if value then "true" else "false"
  | .num value => writeNumber value
  | .str value => writeText value
  | .list items => "[" ++ String.intercalate ", " (writeItems items) ++ "]"
  | .record fields => "\x7b" ++ String.intercalate ", " (writeFields fields) ++ "\x7d"

/-- Write the items of a list. -/
def writeItems : List Data → List String
  | [] => []
  | item :: rest => write item :: writeItems rest

/-- Write the fields of a record. -/
def writeFields : List (String × Data) → List String
  | [] => []
  | (key, value) :: rest => (writeText key ++ ": " ++ write value) :: writeFields rest

end

end Canvasflow.Json
