import Canvasflow.Data.Json
import Canvasflow.Geometry.Box
import Canvasflow.Page.Shape
import Canvasflow.Scene.Path

/-!
# Options

What a command line asks for. Every word is an option, perhaps with a value attached to it, or a
value of the option before it. The name of an option may be cut short as long as no other option
starts the same way. Words that start with a dash and are negative numbers, or contain a space, are
values. Options are taken from left to right, and each has as many values as it needs and no more;
a word that belongs to no option makes the whole command line wrong.
-/

namespace Canvasflow.CommandLine

open Canvasflow.Geometry Canvasflow.Page Canvasflow.Scene

/-- An option. -/
inductive Flag where
  | help
  | file
  | set
  | click
  | ticks
  | save
  | debug
  deriving DecidableEq, Repr

/-- The names of the options. -/
def Flag.names : List (String × Flag) :=
  [("-h", help), ("--help", help), ("--file", file), ("-f", file), ("--set", set), ("--click", click),
    ("--ticks", ticks), ("--save", save), ("--debug", debug)]

/-- The option of a name. -/
def Flag.ofName? (name : String) : Option Flag :=
  names.lookup name

/-- The number of values of an option. -/
def Flag.count : Flag → Nat
  | help | debug => 0
  | file | ticks | save => 1
  | click => 2
  | set => 3

/-- A change of a shape: the text of a value for one of its fields. -/
structure Assignment where
  id : String
  key : String
  value : String
  deriving DecidableEq, Repr

/-- The value that the text of an assignment stands for: the one that it writes, or else the text
itself. Nothing stands for nesting beyond the limit. -/
def Assignment.data? (assignment : Assignment) : Option Data :=
  match Json.read assignment.value with
  | .ok data => some data
  | .error .nestedTooDeeply => none
  | .error .malformed | .error .integerTooLong => some (.str assignment.value)

/-- A coordinate of a patch; null changes nothing. -/
def coordinate? : Data → Option Data
  | .null => none
  | value => some value

/-- The patch of an assignment: of a coordinate, or of a property. -/
def Assignment.patch? (assignment : Assignment) : Option Patch :=
  assignment.data?.map fun value =>
    match assignment.key with
    | "x" => { id := assignment.id, x? := coordinate? value }
    | "y" => { id := assignment.id, y? := coordinate? value }
    | "rotation" => { id := assignment.id, rotation? := coordinate? value }
    | key => { id := assignment.id, props? := some (.record [(key, value)]) }

/-- What a command line asks for: a scene to load, changes, clicks, a number of frames, and a place
to save the scene. -/
structure Options where
  file? : Option Path
  assignments : List Assignment
  clicks : List (Point Float)
  ticks : Int
  save? : Option Path
  debug : Bool

/-- What an empty command line asks for. -/
def Options.none : Options :=
  ⟨Option.none, [], [], 0, Option.none, false⟩

/-- Why a command line is not carried out: it asks for help, or it is wrong. -/
inductive Stop where
  | help
  | misuse
  deriving DecidableEq, Repr

/-- A word of a command line. The barrier makes values of all words behind it. -/
inductive Word where
  | value (text : String)
  | flag (flag : Flag) (attached? : Option String)
  | unknown
  | barrier
  deriving DecidableEq, Repr

namespace Word

/-- What stands before and after the first equality sign. -/
def splitAssigned (chars : List Char) : String × Option String :=
  let front := String.ofList (chars.takeWhile (· ≠ '='))
  match chars.dropWhile (· ≠ '=') with
  | [] => (front, none)
  | _ :: assigned => (front, some (String.ofList assigned))

/-- The options that a word may mean that names none exactly. A long name may be cut short, and a
short one may have its value attached. -/
def candidates : List Char → List (Flag × Option String)
  | '-' :: '-' :: rest =>
    let (start, assigned?) := splitAssigned ('-' :: '-' :: rest)
    (Flag.names.filter fun entry => start.toList.isPrefixOf entry.1.toList).map fun entry =>
      (entry.2, assigned?)
  | '-' :: letter :: attached =>
    ((Flag.ofName? (String.ofList ['-', letter])).map fun found =>
      (found, some (String.ofList attached))).toList
  | _ => []

/-- Whether a text is a dash and then digits, perhaps with a point before the last of them. A line
feed at the end does not count. -/
def isNegative (chars : List Char) : Bool :=
  let digits := if chars.getLast? = some '\n' then chars.dropLast.tail else chars.tail
  match digits.dropWhile Text.isDigit with
  | [] => !digits.isEmpty
  | '.' :: fraction => !fraction.isEmpty && fraction.all Text.isDigit
  | _ => false

/-- Read a word that starts with a dash and goes on. -/
def ofDashed (chars : List Char) : Except Stop Word :=
  match Flag.ofName? (String.ofList chars), splitAssigned chars with
  | some found, _ => .ok (.flag found none)
  | none, (name, assigned?) =>
    match Flag.ofName? name, candidates chars with
    | some found, _ => .ok (.flag found assigned?)
    | none, [(found, attached?)] => .ok (.flag found attached?)
    | none, [] =>
      .ok (if isNegative chars || chars.contains ' ' then .value (String.ofList chars) else .unknown)
    | none, _ :: _ :: _ => .error .misuse

/-- Read a word. -/
def ofText (text : String) : Except Stop Word :=
  match text.toList with
  | ['-', '-'] => .ok .barrier
  | '-' :: second :: rest => ofDashed ('-' :: second :: rest)
  | _ => .ok (.value text)

/-- Read the words of a command line. -/
def ofTexts : List String → Except Stop (List Word)
  | [] => .ok []
  | text :: rest => do
    match ← ofText text with
    | barrier => return barrier :: rest.map value
    | word => return word :: (← ofTexts rest)

end Word

/-- A command line read in part: what it asks for so far, the option that still needs values with
those it has, and whether there was a word that belongs to no option. -/
structure Reading where
  options : Options
  open? : Option (Flag × List String)
  leftover : Bool

namespace Reading

/-- Nothing read yet. -/
def start : Reading :=
  ⟨.none, none, false⟩

/-- Take over an option with all of its values. -/
def take (options : Options) : Flag → List String → Except Stop Options
  | .file, [path] => .ok { options with file? := some (.ofText path) }
  | .save, [path] => .ok { options with save? := some (.ofText path) }
  | .debug, [] => .ok { options with debug := true }
  | .help, [] => .error .help
  | .set, [id, key, value] =>
    .ok { options with assignments := options.assignments ++ [⟨id, key, value⟩] }
  | .click, [x, y] => match Numeral.float? x, Numeral.float? y with
    | some x, some y => .ok { options with clicks := options.clicks ++ [⟨x, y⟩] }
    | _, _ => .error .misuse
  | .ticks, [count] => match Numeral.int? count with
    | some count => .ok { options with ticks := count }
    | none => .error .misuse
  | _, _ => .error .misuse

/-- Give values to an option, which stays open as long as it needs more. -/
def fill (reading : Reading) (flag : Flag) (values : List String) : Except Stop Reading :=
  if values.length < flag.count then .ok { reading with open? := some (flag, values) }
  else do
    return { reading with options := ← take reading.options flag values, open? := none }

/-- Read one more word. -/
def step (reading : Reading) (word : Word) : Except Stop Reading :=
  match reading.open?, word with
  | some (flag, values), .value text => reading.fill flag (values ++ [text])
  | some _, _ => .error .misuse
  | none, .flag flag none => reading.fill flag []
  | none, .flag flag (some text) =>
    if flag.count = 1 then reading.fill flag [text] else .error .misuse
  | none, .value _ | none, .unknown | none, .barrier => .ok { reading with leftover := true }

/-- What was read, if nothing is missing and nothing is left over. -/
def complete (reading : Reading) : Except Stop Options :=
  if reading.open?.isSome || reading.leftover then .error .misuse else .ok reading.options

end Reading

/-- Read a command line. -/
def Options.ofWords (texts : List String) : Except Stop Options := do
  let words ← Word.ofTexts texts
  (← words.foldlM Reading.step .start).complete

end Canvasflow.CommandLine
