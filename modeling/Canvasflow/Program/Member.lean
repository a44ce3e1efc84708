import Canvasflow.Program.Convert

/-!
# Members and indices

Reading and writing the parts of values. A whole number indexes a list or a text; any other key is
taken as the name of a member. Lists have no holes: only a slot that exists or the next free one
can be written.
-/

namespace Canvasflow.Program

/-- The index that a number is, if it is whole; an integer beyond the range of doubles is refused.
-/
def indexOf? (key : Number) : Except Failure (Option Int) :=
  match key.toFloat? with
  | none => .error .overflow
  | some _ => .ok key.whole?

/-- The element at an index, if the index is in range. -/
def elementAt? {α : Type} (items : Array α) (index : Int) : Option α :=
  if index < 0 then none else items[index.toNat]?

/-- Read the member of a value. A method that is read off a value gets the stamp. -/
def getMember (heap : Heap) (stamp : Nat) (value : Value) (name : String) :
    Except Failure Value :=
  match value with
  | .null => fault (.nullMember name)
  | .record place => .ok ((Entries.find? name (heap.fields place)).getD .null)
  | .space space => match space.member? name with
    | some member => .ok member
    | none => fault (.notAvailable space.name name)
  | .list place =>
    if name = "length" then .ok (.int (heap.items place).size)
    else match Entries.find? name ListMethod.table with
      | some method => .ok (.native (.listMethod method place stamp))
      | none => .ok .null
  | .str text =>
    if name = "length" then .ok (.int text.length)
    else match Entries.find? name TextMethod.table with
      | some method => .ok (.native (.textMethod method text stamp))
      | none => .ok .null
  | .num number => if name = "toFixed" then .ok (.native (.toFixed number stamp)) else .ok .null
  | .bool _ | .native _ => .ok .null

/-- Read the part of a value that a key names. -/
def getIndex (heap : Heap) (stamp : Nat) (value key : Value) : Except Failure Value := do
  let index ← match value, key with
    | .list _, .num number | .str _, .num number => indexOf? number
    | _, _ => .ok none
  match value, index with
  | .list place, some index => return (elementAt? (heap.items place) index).getD .null
  | .str text, some index =>
    let found := elementAt? text.toList.toArray index
    return (found.map fun c => Value.str (String.singleton c)).getD .null
  | _, _ => getMember heap stamp value (← key.text heap)

/-- Write the part of a record or list that a key names. -/
def setMember (heap : Heap) (target key value : Value) : Except Failure Heap := do
  let index ← match target, key with
    | .list _, .num number => indexOf? number
    | _, _ => .ok none
  match target, index with
  | .record place, _ =>
    let name ← key.text heap
    return heap.put place (.record (Entries.set name value (heap.fields place)))
  | .list place, some index =>
    let items := heap.items place
    if index < 0 ∨ (items.size : Int) < index then fault (.invalidIndex index items.size)
    else if index = items.size then
      checkLength (items.size + 1) "array"
      return heap.put place (.list (items.push value))
    else return heap.put place (.list (items.setIfInBounds index.toNat value))
  | _, _ => fault (.cannotSet (← key.text heap) target.type)

end Canvasflow.Program
