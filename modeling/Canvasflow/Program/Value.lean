import Canvasflow.Data

/-!
# Values of programs

A program handles null, truth values, numbers and texts, references to lists and records in a heap,
native functions, and namespaces of native functions. Lists and records are shared: two references
are the same object when they are equal. Native functions that are reached through a namespace are
one object each; a method is a new object whenever it is read off its receiver, which the stamp
records.
-/

namespace Canvasflow.Program

/-- The functions of the namespace `Math`. -/
inductive MathFn where
  | abs
  | min
  | max
  | floor
  | ceil
  | round
  | trunc
  | sign
  | sqrt
  | pow
  | hypot
  | sin
  | cos
  | tan
  | atan2
  | random
  deriving DecidableEq, Repr

/-- The questions that the namespace `editor` answers. -/
inductive EditorQuery where
  | shape
  | bounds
  | pageShapes
  | shapesInView
  | pagePoint
  deriving DecidableEq, Repr

/-- The questions that the namespace `G` answers. -/
inductive GeoQuery where
  | intersects
  | getIntersects
  | contains
  | getContains
  | distance
  | distanceCenter
  deriving DecidableEq, Repr

/-- Native functions that exist once. -/
inductive Builtin where
  | math (fn : MathFn)
  | log
  | number
  | string
  | boolean
  | isNaN
  | editor (query : EditorQuery)
  | geo (query : GeoQuery)
  | bounds
  | unpack
  deriving DecidableEq, Repr

/-- The methods of lists. -/
inductive ListMethod where
  | includes
  | indexOf
  | join
  | slice
  | concat
  | push
  deriving DecidableEq, Repr

/-- The methods of texts. -/
inductive TextMethod where
  | includes
  | indexOf
  | startsWith
  | endsWith
  | toUpperCase
  | toLowerCase
  | trim
  | slice
  | split
  deriving DecidableEq, Repr

/-- A function that programs can call. A `given` one only has a name and returns its first
argument. -/
inductive Native where
  | builtin (fn : Builtin)
  | listMethod (method : ListMethod) (receiver : Nat) (stamp : Nat)
  | textMethod (method : TextMethod) (receiver : String) (stamp : Nat)
  | toFixed (receiver : Number) (stamp : Nat)
  | given (name : String) (stamp : Nat)

/-- A namespace. A `given` one only has a name and no members. -/
inductive Namespace where
  | math
  | console
  | editor
  | geo
  | given (name : String) (stamp : Nat)
  deriving DecidableEq, Repr

/-- A value that a program handles. -/
inductive Value where
  | null
  | bool (value : Bool)
  | num (value : Number)
  | str (value : String)
  | list (place : Nat)
  | record (place : Nat)
  | native (fn : Native)
  | space (space : Namespace)
  deriving Inhabited

namespace Value

/-- An integer as a value. -/
def int (value : Int) : Value :=
  num (.int value)

/-- A double as a value. -/
def double (value : Float) : Value :=
  num (.double value)

end Value

/-- Every function of the namespace `Math`, with its name. -/
def MathFn.table : List (String × MathFn) :=
  [("abs", .abs), ("min", .min), ("max", .max), ("floor", .floor), ("ceil", .ceil),
    ("round", .round), ("trunc", .trunc), ("sign", .sign), ("sqrt", .sqrt), ("pow", .pow),
    ("hypot", .hypot), ("sin", .sin), ("cos", .cos), ("tan", .tan), ("atan2", .atan2),
    ("random", .random)]

/-- Every question of the namespace `editor`, with its name. -/
def EditorQuery.table : List (String × EditorQuery) :=
  [("getShape", .shape), ("getShapePageBounds", .bounds), ("getCurrentPageShapes", .pageShapes),
    ("getShapesInView", .shapesInView), ("getCurrentPagePoint", .pagePoint)]

/-- Every question of the namespace `G`, with its name. -/
def GeoQuery.table : List (String × GeoQuery) :=
  [("intersects", .intersects), ("getIntersects", .getIntersects), ("contains", .contains),
    ("getContains", .getContains), ("distance", .distance), ("distanceCenter", .distanceCenter)]

/-- Every method of lists, with its name. -/
def ListMethod.table : List (String × ListMethod) :=
  [("includes", .includes), ("indexOf", .indexOf), ("join", .join), ("slice", .slice),
    ("concat", .concat), ("push", .push)]

/-- Every method of texts, with its name. -/
def TextMethod.table : List (String × TextMethod) :=
  [("includes", .includes), ("indexOf", .indexOf), ("startsWith", .startsWith),
    ("endsWith", .endsWith), ("toUpperCase", .toUpperCase), ("toLowerCase", .toLowerCase),
    ("trim", .trim), ("slice", .slice), ("split", .split)]

/-- The name that a table gives to an entry. -/
def nameIn {α : Type} [DecidableEq α] (table : List (String × α)) (entry : α) : String :=
  ((table.find? fun row => row.2 = entry).map Prod.fst).getD ""

/-- The name of a native function in messages. -/
def Builtin.name : Builtin → String
  | math fn => "Math." ++ nameIn MathFn.table fn
  | log => "console.log"
  | number => "Number"
  | string => "String"
  | boolean => "Boolean"
  | isNaN => "isNaN"
  | editor query => "editor." ++ nameIn EditorQuery.table query
  | geo query => "G." ++ nameIn GeoQuery.table query
  | bounds => "bounds"
  | unpack => "_unpack"

/-- The name of a native function in messages. -/
def Native.name : Native → String
  | builtin fn => fn.name
  | listMethod method _ _ => "Array." ++ nameIn ListMethod.table method
  | textMethod method _ _ => "String." ++ nameIn TextMethod.table method
  | toFixed _ _ => "toFixed"
  | given name _ => name

/-- The name of a namespace. -/
def Namespace.name : Namespace → String
  | math => "Math"
  | console => "console"
  | editor => "editor"
  | geo => "G"
  | given name _ => name

/-- Whether two functions are one object. -/
def Native.same : Native → Native → Bool
  | builtin a, builtin b => a == b
  | listMethod _ _ a, listMethod _ _ b => a == b
  | textMethod _ _ a, textMethod _ _ b => a == b
  | toFixed _ a, toFixed _ b => a == b
  | given _ a, given _ b => a == b
  | _, _ => false

/-- A native function of a namespace, as a value. -/
def Builtin.value (fn : Builtin) : Value :=
  .native (.builtin fn)

/-- The member of a namespace. -/
def Namespace.member? (space : Namespace) (name : String) : Option Value :=
  match space with
  | math =>
    if name = "PI" then some (.double (Float.ofBits 0x400921FB54442D18))
    else if name = "E" then some (.double (Float.ofBits 0x4005BF0A8B145769))
    else (Entries.find? name MathFn.table).map fun fn => (Builtin.math fn).value
  | console => if name = "log" then some Builtin.log.value else none
  | editor => (Entries.find? name EditorQuery.table).map fun query => (Builtin.editor query).value
  | geo => (Entries.find? name GeoQuery.table).map fun query => (Builtin.geo query).value
  | given _ _ => none

/-- The names of the members of a namespace. -/
def Namespace.members : Namespace → List String
  | math => ["PI", "E"] ++ MathFn.table.map Prod.fst
  | console => ["log"]
  | editor => EditorQuery.table.map Prod.fst
  | geo => GeoQuery.table.map Prod.fst
  | given _ _ => []

/-- A list or a record in the heap. -/
inductive Cell where
  | list (items : Array Value)
  | record (fields : Entries Value)
  deriving Inhabited

/-- The lists and records of a run; a reference is an index. -/
structure Heap where
  cells : Array Cell
  deriving Inhabited

namespace Heap

/-- The heap without lists and records. -/
def empty : Heap := ⟨#[]⟩

/-- Put a new cell into the heap. -/
def alloc (heap : Heap) (cell : Cell) : Nat × Heap :=
  (heap.cells.size, ⟨heap.cells.push cell⟩)

/-- The items of a list. -/
def items (heap : Heap) (place : Nat) : Array Value :=
  match heap.cells[place]? with
  | some (.list items) => items
  | _ => #[]

/-- The fields of a record. -/
def fields (heap : Heap) (place : Nat) : Entries Value :=
  match heap.cells[place]? with
  | some (.record fields) => fields
  | _ => []

/-- Replace a cell. -/
def put (heap : Heap) (place : Nat) (cell : Cell) : Heap :=
  ⟨heap.cells.setIfInBounds place cell⟩

mutual

/-- Copy plain data into the heap. -/
def load (heap : Heap) : Data → Value × Heap
  | .null => (.null, heap)
  | .bool value => (.bool value, heap)
  | .num value => (.num value, heap)
  | .str value => (.str value, heap)
  | .list items =>
    let (values, filled) := loadItems heap items
    let (place, grown) := filled.alloc (.list values.toArray)
    (.list place, grown)
  | .record fields =>
    let (values, filled) := loadFields heap fields
    let (place, grown) := filled.alloc (.record values)
    (.record place, grown)

/-- Copy the items of a list into the heap. -/
def loadItems (heap : Heap) : List Data → List Value × Heap
  | [] => ([], heap)
  | item :: rest =>
    let (value, next) := load heap item
    let (values, last) := loadItems next rest
    (value :: values, last)

/-- Copy the fields of a record into the heap. -/
def loadFields (heap : Heap) : List (String × Data) → Entries Value × Heap
  | [] => ([], heap)
  | (key, item) :: rest =>
    let (value, next) := load heap item
    let (values, last) := loadFields next rest
    ((key, value) :: values, last)

end

end Heap

end Canvasflow.Program
