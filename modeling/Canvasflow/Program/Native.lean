import Canvasflow.Program.Member
import Canvasflow.Program.Operator
import Canvasflow.Program.Snapshot
import Canvasflow.Text.Case
import Canvasflow.Text.Runs

/-!
# Native functions

What the functions that programs can call compute. A call gets the host as a table of answers to
questions, so no function can change anything but the lists and records of the run, its log, and
the count of numbers drawn. Wrong numbers of arguments and wrong arguments are failures, which the
caller sees as a fault that names the function.
-/

namespace Canvasflow.Program

/-- What a program may ask of the canvas around it. Shapes are named by their identities; nothing
stands for a reference to no shape. -/
inductive Question where
  | shape (id : Option String)
  | bounds (id : Option String)
  | pageShapes
  | shapesInView
  | pagePoint
  | intersects (id : Option String)
  | getIntersects (id : Option String)
  | contains (id : Option String)
  | getContains (id : Option String)
  | distance (a b : Option String)
  | distanceCenter (a b : Option String)
  deriving DecidableEq, Repr

/-- The surroundings of a run: the answers of the canvas, and the numbers to draw. -/
structure World where
  ask : Question → Except Failure Data
  draw : Nat → Float

/-- Surroundings without a canvas. The numbers drawn are fractions of multiples of the golden
ratio. -/
def World.none : World where
  ask _ := .ok .null
  draw n := (((n + 1) * 40503 % 65536 : Nat).toFloat) / 65536.0

/-- The variables of one scope. -/
structure Frame where
  values : Entries Value
  constants : List String
  deriving Inhabited

/-- The state of a run: its lists and records, its scopes (innermost first), the steps taken, the
lines logged, and counts of the stamps given and the numbers drawn. -/
structure Machine where
  heap : Heap
  scopes : List Frame
  steps : Nat
  log : Array String
  stamps : Nat
  draws : Nat
  deriving Inhabited

/-- An operation on the state of a run that may fail. -/
abbrev Action := ExceptT Failure (StateM Machine)

namespace Action

/-- A pure operation that may fail. -/
def ofExcept {α : Type} (result : Except Failure α) : Action α :=
  ExceptT.mk (pure result)

/-- A new list. -/
def newList (items : Array Value) : Action Value := do
  let machine ← get
  let (place, heap) := machine.heap.alloc (.list items)
  set { machine with heap := heap }
  return .list place

/-- A copy of plain data. -/
def load (data : Data) : Action Value := do
  let machine ← get
  let (value, heap) := machine.heap.load data
  set { machine with heap := heap }
  return value

end Action

/-- The integer that an argument stands for when it counts something. -/
def countArgument : Value → Except Failure Int
  | .bool value => .ok (if value then 1 else 0)
  | .num (.int value) => .ok value
  | .num (.double value) =>
    if value.isNaN then .error .badValue
    else match Double.truncate? value with
      | some n => .ok n
      | none => .error .overflow
  | .str value => match Numeral.int? value with
    | some n => .ok n
    | none => .error .badValue
  | .null | .list _ | .record _ | .native _ | .space _ => .error .badType

/-- A position within a sequence of the given length: negative ones count from the end, and the rest
is cut to the ends. -/
def clipIndex (length : Nat) (index : Int) : Nat :=
  if index < 0 then (index + length).toNat else min index.toNat length

/-- The bounds of a slice: from the first argument, which is zero when left out, to the second,
which is the end when left out or null. -/
def sliceBounds (length : Nat) (args : List Value) : Except Failure (Nat × Nat) := do
  let (first, last) ← match args with
    | [] => .ok (Value.int 0, Value.null)
    | [first] => .ok (first, Value.null)
    | [first, last] => .ok (first, last)
    | _ => .error .badType
  let start ← countArgument first
  match last with
  | .null => return (clipIndex length start, length)
  | last => return (clipIndex length start, clipIndex length (← countArgument last))

/-- The only argument. -/
def single (args : List Value) : Except Failure Value :=
  match args with
  | [value] => .ok value
  | _ => .error .badType

/-- No argument at all. -/
def noArguments (args : List Value) : Except Failure Unit :=
  if args.isEmpty then .ok () else .error .badType

/-- The operand of a mathematical function. -/
def mathOperand (value : Value) : Except Failure Float :=
  value.numericOperand "Math"

/-- Apply a function to a single operand. -/
def mathUnary (fn : Float → Except Failure Float) (args : List Value) : Except Failure Float := do
  fn (← mathOperand (← single args))

/-- Round a finite double to a whole one; a zero has no sign. -/
def roundWith (rounder : Float → Option Int) (x : Float) : Float :=
  match rounder x with
  | some n => Float.ofInt n
  | none => x

/-- A circular function, which refuses infinities. -/
def circular (fn : Float → Float) (x : Float) : Except Failure Float :=
  if x.isInf then .error .badValue else .ok (fn x)

/-- The extreme of some doubles: `empty` of none, and not a number if one of them is not. -/
def extreme (better : Float → Float → Bool) (empty : Float) (xs : List Float) : Float :=
  match xs with
  | [] => empty
  | first :: rest =>
    if xs.any Float.isNaN then Double.notANumber
    else rest.foldl (fun best x => if better x best then x else best) first

/-- A power of the function `Math.pow`, over a power function `pow` of doubles: undefined powers are
not numbers, and every overflow is the positive infinity. -/
def mathPower (pow : Float → Float → Float) (a b : Float) : Float :=
  let result := pow a b
  if a.isFinite && b.isFinite && result.isInf then
    if a == 0.0 then Double.notANumber else Double.infinity
  else result

/-- What the function `Math.pow` computes. An operand beyond the range of doubles counts as an
overflow, too. -/
def powerOf (base exponent : Value) : Except Failure Float :=
  match (do return mathPower Float.pow (← mathOperand base) (← mathOperand exponent) :
      Except Failure Float) with
  | .error .overflow => .ok Double.infinity
  | result => result

/-- What a mathematical function computes, random numbers apart. -/
def MathFn.apply (fn : MathFn) (args : List Value) : Except Failure Float :=
  match fn with
  | abs => mathUnary (fun x => .ok x.abs) args
  | min => do return extreme (· < ·) Double.infinity (← args.mapM mathOperand)
  | max => do return extreme (· > ·) (-Double.infinity) (← args.mapM mathOperand)
  | floor => mathUnary (fun x => .ok (roundWith Double.floor? x)) args
  | ceil => mathUnary (fun x => .ok (roundWith Double.ceil? x)) args
  | round => mathUnary (fun x =>
      .ok (if x.isFinite then roundWith Double.floor? (x + 0.5) else x)) args
  | trunc => mathUnary (fun x => .ok (roundWith Double.truncate? x)) args
  | sign => mathUnary (fun x =>
      .ok (if x.isNaN || x == 0.0 then x else if x > 0.0 then 1.0 else -1.0)) args
  | sqrt => mathUnary (fun x => .ok (if x ≥ 0.0 then x.sqrt else Double.notANumber)) args
  | pow => match args with
    | [base, exponent] => powerOf base exponent
    | _ => .error .badType
  | hypot => do return Double.hypotenuse (← args.mapM mathOperand)
  | sin => mathUnary (circular Float.sin) args
  | cos => mathUnary (circular Float.cos) args
  | tan => mathUnary (circular Float.tan) args
  | atan2 => match args with
    | [y, x] => do return Float.atan2 (← mathOperand y) (← mathOperand x)
    | _ => .error .badType
  | random => .error .badType

/-- A number with a fixed number of places. -/
def toFixedText (receiver : Number) (args : List Value) : Except Failure String := do
  let digits ← match args with
    | [] => .ok (Value.int 0)
    | [digits] => .ok digits
    | _ => .error .badType
  let places ← digits.toNumber
  if !(0.0 ≤ places && places ≤ 100.0) then .error .badValue
  match receiver.toFloat?, Double.truncate? places with
  | some x, some n => return Double.fixedPlaces x n.toNat
  | _, _ => .error .overflow

/-- The index of the first place where `needle` occurs, counted from `start`. -/
def findFrom (needle : List Char) (start : Nat) : List Char → Option Nat
  | [] => if needle.isEmpty then some start else none
  | c :: rest => if needle.isPrefixOf (c :: rest) then some start else findFrom needle (start + 1) rest

/-- Cut a text at a separator that is not empty. `pieces` holds the pieces so far, last first,
`piece` the characters of the piece that is read, last first, and `skip` the characters of a
separator that are still to be passed. -/
def splitOnto (separator : List Char) (pieces : List (List Char)) (piece : List Char) :
    Nat → List Char → List (List Char)
  | _, [] => (piece.reverse :: pieces).reverse
  | skip + 1, _ :: rest => splitOnto separator pieces piece skip rest
  | 0, c :: rest =>
    if separator.isPrefixOf (c :: rest) then
      splitOnto separator (piece.reverse :: pieces) [] (separator.length - 1) rest
    else splitOnto separator pieces (c :: piece) 0 rest

/-- The pieces of a text between the occurrences of a separator that is not empty. -/
def splitAt (separator chars : List Char) : List (List Char) :=
  splitOnto separator [] [] 0 chars

/-- The pieces of a text: its words without a separator, its characters with an empty text, and else
the texts between separators. -/
def splitText (heap : Heap) (chars : List Char) (args : List Value) :
    Except Failure (List (List Char)) := do
  let separator ← match args with
    | [] => .ok Value.null
    | [separator] => .ok separator
    | _ => .error .badType
  match separator with
  | .null => return Text.runs Text.isBlank chars
  | .str "" => return chars.map ([·])
  | other =>
    let text ← other.text heap
    if text.isEmpty then .error .badValue
    else return splitAt text.toList chars

/-- Call a method of a list. -/
def callListMethod (method : ListMethod) (receiver : Nat) (args : List Value) : Action Value := do
  let heap := (← get).heap
  let items := heap.items receiver
  match method with
  | .includes =>
    let needle ← Action.ofExcept (single args)
    return .bool (items.any fun item => item.same needle)
  | .indexOf =>
    let needle ← Action.ofExcept (single args)
    match items.findIdx? fun item => item.same needle with
    | some index => return .int index
    | none => return .int (-1)
  | .join =>
    let separator ← Action.ofExcept <| match args with
      | [] => .ok ","
      | [separator] => separator.text heap
      | _ => .error .badType
    return .str (← Action.ofExcept (Value.joinTexts (Value.text heap) separator items.toList))
  | .slice =>
    let (start, stop) ← Action.ofExcept (sliceBounds items.size args)
    Action.newList (items.extract start stop)
  | .concat =>
    let parts := args.map fun arg => match arg with
      | .list place => heap.items place
      | other => #[other]
    let joined := parts.foldl (· ++ ·) items
    Action.ofExcept (checkLength joined.size "array")
    Action.newList joined
  | .push =>
    Action.ofExcept (checkLength (items.size + args.length) "array")
    let extended := items ++ args.toArray
    modify fun machine => { machine with heap := machine.heap.put receiver (.list extended) }
    return .int extended.size

/-- Call a method of a text. -/
def callTextMethod (method : TextMethod) (receiver : String) (args : List Value) : Action Value := do
  let heap := (← get).heap
  let chars := receiver.toList
  let needle : Except Failure (List Char) := do
    return (← (← single args).text heap).toList
  match method with
  | .includes =>
    let needle ← Action.ofExcept needle
    return .bool (findFrom needle 0 chars).isSome
  | .indexOf =>
    let needle ← Action.ofExcept needle
    match findFrom needle 0 chars with
    | some index => return .int index
    | none => return .int (-1)
  | .startsWith =>
    let needle ← Action.ofExcept needle
    return .bool (needle.isPrefixOf chars)
  | .endsWith =>
    let needle ← Action.ofExcept needle
    return .bool (needle.reverse.isPrefixOf chars.reverse)
  | .toUpperCase =>
    Action.ofExcept (noArguments args)
    return .str (Text.upper receiver)
  | .toLowerCase =>
    Action.ofExcept (noArguments args)
    return .str (Text.lower receiver)
  | .trim =>
    Action.ofExcept (noArguments args)
    return .str (Text.trim receiver)
  | .slice =>
    let (start, stop) ← Action.ofExcept (sliceBounds chars.length args)
    return .str (String.ofList ((chars.take stop).drop start))
  | .split =>
    let pieces ← Action.ofExcept (splitText heap chars args)
    Action.newList (pieces.map fun piece => Value.str (String.ofList piece)).toArray

/-- The shape that a reference is to: an identity or a record with one; an empty identity is none.
-/
def shapeReference (heap : Heap) (value : Value) : Except Failure (Option String) :=
  match value with
  | .null => .ok none
  | .str id => .ok (if id.isEmpty then none else some id)
  | .record place => match Entries.find? "id" (heap.fields place) with
    | some (.str id) => .ok (if id.isEmpty then none else some id)
    | _ => .ok none
  | .bool _ | .num _ | .list _ | .native _ | .space _ => .error .badType

/-- What is said of a value that refers to no shape. -/
def notAReference (value : Value) : String :=
  "Expected a shape or shape id, got " ++ value.hostType

/-- Ask about the shape that the only argument refers to. -/
def askAbout (world : World) (question : Option String → Question) (args : List Value) :
    Action Value := do
  let heap := (← get).heap
  let id ← Action.ofExcept (do shapeReference heap (← single args))
  Action.load (← Action.ofExcept (world.ask (question id)))

/-- Ask about the shapes that the two arguments refer to. -/
def askAboutBoth (world : World) (question : Option String → Option String → Question)
    (args : List Value) : Action Value := do
  let heap := (← get).heap
  match args with
  | [a, b] =>
    let first ← Action.ofExcept (shapeReference heap a)
    let second ← Action.ofExcept (shapeReference heap b)
    Action.load (← Action.ofExcept (world.ask (question first second)))
  | _ => Action.ofExcept (.error .badType)

/-- Ask a question without arguments. -/
def askPlain (world : World) (question : Question) (args : List Value) : Action Value := do
  Action.ofExcept (noArguments args)
  Action.load (← Action.ofExcept (world.ask question))

/-- Call a native function that exists once. -/
def callBuiltin (world : World) (fn : Builtin) (args : List Value) : Action Value := do
  let heap := (← get).heap
  match fn with
  | .math .random =>
    Action.ofExcept (noArguments args)
    let machine ← get
    set { machine with draws := machine.draws + 1 }
    return .double (world.draw machine.draws)
  | .math fn => return .double (← Action.ofExcept (fn.apply args))
  | .log =>
    let texts ← Action.ofExcept (args.mapM (Value.text heap))
    modify fun machine => { machine with log := machine.log.push (String.intercalate " " texts) }
    return .null
  | .number => return .double (← Action.ofExcept (do (← single args).toNumber))
  | .string => return .str (← Action.ofExcept (do (← single args).text heap))
  | .boolean => return .bool (← Action.ofExcept (do (← single args).truthy))
  | .isNaN =>
    let x ← Action.ofExcept (do (← single args).toNumber)
    return .bool x.isNaN
  | .editor .shape => askAbout world .shape args
  | .editor .bounds => askAbout world .bounds args
  | .editor .pageShapes => askPlain world .pageShapes args
  | .editor .shapesInView => askPlain world .shapesInView args
  | .editor .pagePoint => askPlain world .pagePoint args
  | .geo .intersects => askAbout world .intersects args
  | .geo .getIntersects => askAbout world .getIntersects args
  | .geo .contains => askAbout world .contains args
  | .geo .getContains => askAbout world .getContains args
  | .geo .distance => askAboutBoth world .distance args
  | .geo .distanceCenter => askAboutBoth world .distanceCenter args
  | .bounds => askAbout world .bounds args
  | .unpack =>
    let patch ← Action.ofExcept (do unpack heap (← single args))
    Action.load patch.toData

/-- Call a native function. -/
def callNative (world : World) (fn : Native) (args : List Value) : Action Value :=
  match fn with
  | .builtin fn => callBuiltin world fn args
  | .listMethod method receiver _ => callListMethod method receiver args
  | .textMethod method receiver _ => callTextMethod method receiver args
  | .toFixed receiver _ => do
    return .str (← Action.ofExcept (toFixedText receiver args))
  | .given _ _ => return args.headD .null

end Canvasflow.Program
