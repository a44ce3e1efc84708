import Std.Data.HashMap
import Canvasflow.Entries
import Canvasflow.Geometry.Box

/-!
# Grid index

An index of boxes under text keys that answers which boxes touch a region. The plane is cut into
square cells; every key stands in the bucket of every cell that its box covers, so a question looks
only at the buckets of the cells that the region covers and then compares boxes exactly. A key
whose box is replaced by one that covers no cells, because a side is not a finite number, is lost.
-/

namespace Canvasflow.Geometry

/-- Why a number has no whole part. -/
inductive FloorFault where
  | notANumber
  | infinite
  deriving DecidableEq, Repr

/-- Numbers with a whole part below them. -/
class Floored (K : Type) where
  floor : K → Except FloorFault Int

/-- A cell of the grid by its column and its row. -/
abbrev Cell := Int × Int

/-- A box in the index together with the cells that it covers. -/
structure Indexed (K : Type) where
  box : Box K
  cells : List Cell

/-- An index of boxes: the length of a cell's side, the boxes by key, and the keys by cell. No
bucket is empty. -/
structure GridIndex (K : Type) where
  cellSize : K
  boxes : Entries (Indexed K)
  buckets : Std.HashMap Cell (List String)

/-- The integers from the first to the last. -/
def integersFrom (first last : Int) : List Int :=
  (List.range (last + 1 - first).toNat).map fun (n : Nat) => first + n

namespace GridIndex

variable {K : Type}

/-- The index without boxes. -/
def empty (cellSize : K) : GridIndex K :=
  ⟨cellSize, [], ∅⟩

/-- Drop every box. -/
def clear (index : GridIndex K) : GridIndex K :=
  empty index.cellSize

/-- The number of boxes. -/
def size (index : GridIndex K) : Nat :=
  index.boxes.length

/-- The box of a key. -/
def box? (index : GridIndex K) (key : String) : Option (Box K) :=
  (Entries.find? key index.boxes).map Indexed.box

/-- Whether the key has a box. -/
def has (index : GridIndex K) (key : String) : Bool :=
  Entries.has key index.boxes

/-- The cells that a box covers. -/
def cells [Add K] [Div K] [Floored K] (cellSize : K) (box : Box K) : Except FloorFault (List Cell) := do
  let left ← Floored.floor (box.x / cellSize)
  let top ← Floored.floor (box.y / cellSize)
  let right ← Floored.floor (box.maxX / cellSize)
  let bottom ← Floored.floor (box.maxY / cellSize)
  return (integersFrom left right).flatMap fun column =>
    (integersFrom top bottom).map fun row => (column, row)

/-- The keys in the bucket of a cell. -/
def bucket (index : GridIndex K) (cell : Cell) : List String :=
  (index.buckets[cell]?).getD []

/-- Put a key into the bucket of a cell. -/
def enter (key : String) (buckets : Std.HashMap Cell (List String)) (cell : Cell) :
    Std.HashMap Cell (List String) :=
  buckets.alter cell fun
    | none => some [key]
    | some keys => some (keys.insert key)

/-- Take a key out of the bucket of a cell, and drop the bucket when nothing is left. -/
def leave (key : String) (buckets : Std.HashMap Cell (List String)) (cell : Cell) :
    Std.HashMap Cell (List String) :=
  buckets.alter cell fun
    | none => none
    | some keys =>
      let rest := keys.filter (· != key)
      if rest.isEmpty then none else some rest

/-- Drop the box of a key. A key without a box is ignored. -/
def remove (index : GridIndex K) (key : String) : GridIndex K :=
  match Entries.find? key index.boxes with
  | none => index
  | some entry =>
    { index with
      boxes := Entries.erase key index.boxes
      buckets := entry.cells.foldl (leave key) index.buckets }

/-- Store a box under a key that has none. -/
def add (index : GridIndex K) (key : String) (entry : Indexed K) : GridIndex K :=
  { index with
    boxes := Entries.set key entry index.boxes
    buckets := entry.cells.foldl (enter key) index.buckets }

/-- Store a box under a key, in place of the box that it had. The fault, if there is one, stands
beside the index that is left. -/
def insert [Add K] [Div K] [BEq K] [Floored K] (index : GridIndex K) (key : String) (box : Box K) :
    GridIndex K × Except FloorFault Unit :=
  if index.box? key == some box then (index, .ok ())
  else
    let cleared := index.remove key
    match cells index.cellSize box with
    | .ok covered => (cleared.add key ⟨box, covered⟩, .ok ())
    | .error fault => (cleared, .error fault)

/-- The keys whose boxes overlap or touch a region, each once. -/
def keysIn [Add K] [Div K] [LT K] [DecidableLT K] [Floored K] (index : GridIndex K)
    (region : Box K) : Except FloorFault (List String) := do
  let covered ← cells index.cellSize region
  let candidates := covered.foldl (fun keys cell =>
    (index.bucket cell).foldl (fun keys key => keys.insert key) keys) []
  return candidates.filter fun key =>
    match index.box? key with
    | some box => box.collides region
    | none => false

end GridIndex

end Canvasflow.Geometry
