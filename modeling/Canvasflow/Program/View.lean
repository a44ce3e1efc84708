import Canvasflow.Program.Value

/-!
# Values seen from outside

The finite tree that a value is from outside its heap: lists and records are written out, functions
and namespaces by their names, and an occurrence of a list or record inside itself by a mark. The
way down from a value passes every list and record at most once, so the size of the heap bounds its
depth. A view without marks can be loaded into a heap.
-/

namespace Canvasflow.Program

/-- A value written out as a tree. -/
inductive View where
  | null
  | bool (value : Bool)
  | num (value : Number)
  | str (value : String)
  | list (items : List View)
  | record (fields : List (String × View))
  | native (name : String)
  | space (name : String)
  | cycle
  deriving Inhabited

/-- The view of a value below the given lists and records, to the given depth. -/
def Heap.viewBelow (heap : Heap) : Nat → List Nat → Value → View
  | _, _, .null => .null
  | _, _, .bool value => .bool value
  | _, _, .num value => .num value
  | _, _, .str value => .str value
  | _, _, .native fn => .native fn.name
  | _, _, .space space => .space space.name
  | 0, _, .list _ | 0, _, .record _ => .cycle
  | depth + 1, above, .list place =>
    if above.contains place then .cycle
    else .list ((heap.items place).toList.map (heap.viewBelow depth (place :: above)))
  | depth + 1, above, .record place =>
    if above.contains place then .cycle
    else .record (Entries.mapValues (heap.viewBelow depth (place :: above)) (heap.fields place))

/-- The view of a value. -/
def Heap.view (heap : Heap) (value : Value) : View :=
  heap.viewBelow (heap.cells.size + 1) [] value

/-- A heap with a count of the stamps given. -/
structure Supply where
  heap : Heap
  stamps : Nat

/-- The supply without anything. -/
def Supply.empty : Supply := ⟨.empty, 0⟩

/-- Put a new cell into the heap. -/
def Supply.alloc (supply : Supply) (cell : Cell) : Nat × Supply :=
  let (place, heap) := supply.heap.alloc cell
  (place, { supply with heap := heap })

mutual

/-- Load a view into a heap; functions and namespaces become given ones, each an object of its own.
-/
def Supply.load (supply : Supply) : View → Value × Supply
  | .null | .cycle => (.null, supply)
  | .bool value => (.bool value, supply)
  | .num value => (.num value, supply)
  | .str value => (.str value, supply)
  | .native name =>
    (.native (.given name supply.stamps), { supply with stamps := supply.stamps + 1 })
  | .space name =>
    (.space (.given name supply.stamps), { supply with stamps := supply.stamps + 1 })
  | .list items =>
    let (values, filled) := supply.loadItems items
    let (place, grown) := filled.alloc (.list values.toArray)
    (.list place, grown)
  | .record fields =>
    let (values, filled) := supply.loadFields fields
    let (place, grown) := filled.alloc (.record values)
    (.record place, grown)

/-- Load the items of a list. -/
def Supply.loadItems (supply : Supply) : List View → List Value × Supply
  | [] => ([], supply)
  | item :: rest =>
    let (value, next) := supply.load item
    let (values, last) := next.loadItems rest
    (value :: values, last)

/-- Load the fields of a record. -/
def Supply.loadFields (supply : Supply) : List (String × View) → Entries Value × Supply
  | [] => ([], supply)
  | (key, item) :: rest =>
    let (value, next) := supply.load item
    let (values, last) := next.loadFields rest
    ((key, value) :: values, last)

end

end Canvasflow.Program
