import Canvasflow.Program.Native
import Canvasflow.Proofs.Number.Width
import Canvasflow.Proofs.Outcome

/-!
# Likeness of two runs

A `Likeness` says which numbers may stand for each other in two runs, and which texts, lengths and
keys may occur in them. It extends to values, cells, heaps, scopes and whole states: these are alike
when they have the same form, with numbers that stand for each other at the same places. The laws of
`Likeness.Lawful` are what the operations on values need to keep two states alike. A state that is
like itself is a state that has a property, so what is proved of two runs also gives invariants of
one run.
-/

namespace Canvasflow.Program

/-- Which numbers stand for each other, which texts, lengths and lists of keys may occur, and in
which ways an operation may fail. -/
structure Likeness where
  num : Number → Number → Prop
  text : String → Prop
  size : Nat → Prop
  keys : List String → Prop
  fails : Failure → Prop

/-- The form in which lists of keys grow: a key is added, or taken over from another list. -/
structure Likeness.Keyed (L : Likeness) : Prop where
  nil : L.keys []
  add {keys : List String} {key : String} : L.keys keys → L.text key → key ∉ keys →
    L.keys (keys ++ [key])
  take {keys others : List String} {key : String} : L.keys keys → L.keys others → key ∈ others →
    key ∉ keys → L.keys (keys ++ [key])
  drop {keys fewer : List String} : L.keys keys → fewer.Sublist keys → L.keys fewer

/-- What the operations on values need: numbers that stand for each other cannot be told apart, what
is read off a text or a list is no longer than it, and an operation that builds something longer
checks its length. -/
structure Likeness.Lawful (L : Likeness) : Prop extends keyed : L.Keyed where
  double (x : Float) : L.num (.double x) (.double x)
  toFloat? {a b : Number} : L.num a b → a.toFloat? = b.toFloat?
  whole? {a b : Number} : L.num a b → a.whole? = b.whole?
  written? {a b : Number} : L.num a b → a.written? = b.written?
  same {a b c d : Number} : L.num a b → L.num c d → a.same c = b.same d
  truthy {a b : Number} : L.num a b → (Value.num a).truthy = (Value.num b).truthy
  count {a b : Number} : L.num a b → countArgument (.num a) = countArgument (.num b)
  settle {a b : Number} : L.num a b → a.settle = b.settle ∧ L.num a.settle a.settle
  missing : L.num (.int (-1)) (.int (-1))
  sized {n : Nat} : L.size n → L.num (.int n) (.int n)
  size_le {m n : Nat} : L.size n → m ≤ n → L.size m
  size_max : L.size maxLength
  chars {text : String} : L.text text → L.size text.length
  text_max {text : String} : text.length ≤ maxLength → L.text text
  part {text : String} {chars : List Char} : L.text text → chars.Sublist text.toList →
    L.text (String.ofList chars)
  program (fault : ProgramFault) : L.fails (.program fault)
  tooDeep : L.fails .tooDeep
  overflow {a b : Number} : L.num a b → a.toFloat? = none → L.fails .overflow
  unwritten {a b : Number} : L.num a b → a.written? = none → L.fails .badValue

/-- What the methods need that may give something longer than a text: its case maps, and the list of
the pieces into which it is split. -/
structure Likeness.Lengthening (L : Likeness) : Prop where
  upper {text : String} : L.text text → L.text (Text.upper text)
  lower {text : String} : L.text text → L.text (Text.lower text)
  pieces {text : String} : L.text text → L.size (text.length + 1)

namespace Likeness

variable (L : Likeness)

/-! ## Values, heaps and states -/

/-- Values of one form, whose numbers stand for each other. Objects are the same objects. -/
inductive Values : Value → Value → Prop
  | null : Values .null .null
  | bool (value : Bool) : Values (.bool value) (.bool value)
  | num {a b : Number} (h : L.num a b) : Values (.num a) (.num b)
  | str {text : String} (h : L.text text) : Values (.str text) (.str text)
  | list (place : Nat) : Values (.list place) (.list place)
  | record (place : Nat) : Values (.record place) (.record place)
  | builtin (fn : Builtin) : Values fn.value fn.value
  | listMethod (method : ListMethod) (receiver stamp : Nat) :
      Values (.native (.listMethod method receiver stamp))
        (.native (.listMethod method receiver stamp))
  | textMethod (method : TextMethod) {receiver : String} (h : L.text receiver) (stamp : Nat) :
      Values (.native (.textMethod method receiver stamp))
        (.native (.textMethod method receiver stamp))
  | toFixed {a b : Number} (h : L.num a b) (stamp : Nat) :
      Values (.native (.toFixed a stamp)) (.native (.toFixed b stamp))
  | given (name : String) (stamp : Nat) :
      Values (.native (.given name stamp)) (.native (.given name stamp))
  | space (space : Namespace) : Values (.space space) (.space space)

/-- Fields with the same keys and like values. -/
def Fields : Entries Value → Entries Value → Prop :=
  List.Forall₂ fun a b => a.1 = b.1 ∧ L.Values a.2 b.2

/-- Lists of a permitted length with like items, or records of permitted keys with like fields. -/
inductive Cells : Cell → Cell → Prop
  | list {items others : Array Value} (hsize : L.size items.size)
      (h : List.Forall₂ L.Values items.toList others.toList) : Cells (.list items) (.list others)
  | record {fields others : Entries Value} (hkeys : L.keys (Entries.keys fields))
      (h : L.Fields fields others) : Cells (.record fields) (.record others)

/-- Heaps with like cells at the same places. -/
structure Heaps (heap other : Heap) : Prop where
  size : heap.cells.size = other.cells.size
  cell {place : Nat} {cell other' : Cell} : heap.cells[place]? = some cell →
    other.cells[place]? = some other' → L.Cells cell other'

/-- Scopes with like variables, of which the same ones are constant. -/
structure Frames (frame other : Frame) : Prop where
  values : L.Fields frame.values other.values
  constants : frame.constants = other.constants

/-- States with like heaps and scopes that agree in their steps, their log and their counts. -/
structure Machines (machine other : Machine) : Prop where
  heap : L.Heaps machine.heap other.heap
  scopes : List.Forall₂ L.Frames machine.scopes other.scopes
  steps : machine.steps = other.steps
  log : machine.log = other.log
  stamps : machine.stamps = other.stamps
  draws : machine.draws = other.draws

/-- Failures that are both permitted. -/
def Fails (failure other : Failure) : Prop :=
  L.fails failure ∧ L.fails other

/-- One text that may occur. -/
def Texts (text other : String) : Prop :=
  text = other ∧ L.text text

mutual

/-- Plain data that may be given to both runs. -/
def Admits : Data → Prop
  | .null | .bool _ => True
  | .num value => L.num value value
  | .str value => L.text value
  | .list items => L.size items.length ∧ AdmitsAll items
  | .record fields => L.keys (Entries.keys fields) ∧ AdmitsFields fields

/-- The items of a list that may be given. -/
def AdmitsAll : List Data → Prop
  | [] => True
  | item :: rest => Admits item ∧ AdmitsAll rest

/-- The fields of a record that may be given. -/
def AdmitsFields : List (String × Data) → Prop
  | [] => True
  | (_, item) :: rest => Admits item ∧ AdmitsFields rest

end

variable {L}

/-! ## Fields -/

section Fields

variable {fields others : Entries Value}

theorem Fields.find? (h : L.Fields fields others) (key : String) :
    Option.Rel L.Values (Entries.find? key fields) (Entries.find? key others) := by
  induction h with
  | nil => exact .none
  | @cons a b rest rest' hfield _ ih =>
    obtain ⟨k, a⟩ := a
    obtain ⟨k', b⟩ := b
    obtain ⟨rfl, hvalue⟩ := hfield
    simp only [Entries.find?]
    split
    · exact .some hvalue
    · exact ih

theorem Fields.has_eq (h : L.Fields fields others) (key : String) :
    Entries.has key fields = Entries.has key others := by
  have hfind := h.find? key
  unfold Entries.has
  generalize Entries.find? key fields = found, Entries.find? key others = found' at hfind ⊢
  cases hfind <;> rfl

theorem Fields.set (h : L.Fields fields others) (key : String) {a b : Value}
    (hvalue : L.Values a b) : L.Fields (Entries.set key a fields) (Entries.set key b others) := by
  induction h with
  | nil => exact .cons ⟨rfl, hvalue⟩ .nil
  | @cons c d rest rest' hfield hrest ih =>
    obtain ⟨k, c⟩ := c
    obtain ⟨k', d⟩ := d
    obtain ⟨rfl, hold⟩ := hfield
    simp only [Entries.set]
    split
    · exact .cons ⟨rfl, hvalue⟩ hrest
    · exact .cons ⟨rfl, hold⟩ ih

theorem Fields.merge {extra extra' : Entries Value} (h : L.Fields fields others)
    (hextra : L.Fields extra extra') :
    L.Fields (Entries.merge fields extra) (Entries.merge others extra') := by
  induction hextra generalizing fields others with
  | nil => exact h
  | @cons a b rest rest' hfield _ ih =>
    obtain ⟨k, a⟩ := a
    obtain ⟨k', b⟩ := b
    obtain ⟨rfl, hvalue⟩ := hfield
    exact ih (h.set k hvalue)

/-- A key that may occur is set in permitted keys. -/
theorem Keyed.set {α : Type} {fields : Entries α} (hL : L.Keyed)
    (hkeys : L.keys (Entries.keys fields)) {key : String} (hkey : L.text key) (value : α) :
    L.keys (Entries.keys (Entries.set key value fields)) := by
  by_cases hmem : key ∈ Entries.keys fields
  · rwa [Entries.keys_set_of_mem hmem]
  · rw [Entries.set_of_not_mem hmem, Entries.keys, List.map_append]
    exact hL.add hkeys hkey hmem

/-- Distinct keys that may occur are permitted. -/
theorem Keyed.of_nodup (hL : L.Keyed) {keys : List String} (hnodup : keys.Nodup)
    (htexts : ∀ key ∈ keys, L.text key) : L.keys keys := by
  induction keys using List.reverseRecOn with
  | nil => exact hL.nil
  | append_singleton keys key ih =>
    rw [List.nodup_append'] at hnodup
    refine hL.add (ih hnodup.1 fun k hk => htexts k (List.mem_append_left _ hk))
      (htexts key (by simp)) fun hmem => ?_
    exact hnodup.2.2 hmem (by simp)

/-- Permitted keys are merged into permitted keys. -/
theorem Keyed.merge (hL : L.Keyed) (hkeys : L.keys (Entries.keys fields))
    (hothers : L.keys (Entries.keys others)) :
    L.keys (Entries.keys (Entries.merge fields others)) := by
  -- the induction is on the fields still to be merged, which are among those of the whole record
  suffices ∀ extra : Entries Value, (∀ key ∈ Entries.keys extra, key ∈ Entries.keys others) →
      ∀ fields : Entries Value, L.keys (Entries.keys fields) →
        L.keys (Entries.keys (Entries.merge fields extra)) from
    this others (fun _ h => h) fields hkeys
  intro extra
  induction extra with
  | nil => exact fun _ fields hkeys => hkeys
  | cons entry rest ih =>
    intro hmem fields hkeys
    have hentry : entry.1 ∈ Entries.keys others := hmem _ (by simp [Entries.keys])
    refine ih (fun key hkey => hmem key (List.mem_cons_of_mem _ hkey)) _ ?_
    change L.keys (Entries.keys (Entries.set entry.1 entry.2 fields))
    by_cases hold : entry.1 ∈ Entries.keys fields
    · rwa [Entries.keys_set_of_mem hold]
    · rw [Entries.set_of_not_mem hold, Entries.keys, List.map_append]
      exact hL.take hkeys hothers hentry hold

end Fields

/-! ## Heaps -/

namespace Heaps

variable {heap other : Heap}

theorem get? (h : L.Heaps heap other) (place : Nat) :
    Option.Rel L.Cells heap.cells[place]? other.cells[place]? := by
  have hcell := @h.cell place
  by_cases hplace : place < heap.cells.size
  · have hplace' : place < other.cells.size := h.size ▸ hplace
    rw [Array.getElem?_eq_getElem hplace, Array.getElem?_eq_getElem hplace'] at hcell ⊢
    exact .some (hcell rfl rfl)
  · rw [Array.getElem?_eq_none (by omega), Array.getElem?_eq_none (by have := h.size; omega)]
    exact .none

theorem items (hL : L.Lawful) (h : L.Heaps heap other) (place : Nat) :
    L.size (heap.items place).size ∧
      List.Forall₂ L.Values (heap.items place).toList (other.items place).toList := by
  have hcell := h.get? place
  unfold Heap.items
  generalize heap.cells[place]? = cell, other.cells[place]? = cell' at hcell ⊢
  have hnone : L.size 0 := hL.size_le hL.size_max (Nat.zero_le _)
  cases hcell with
  | none => exact ⟨hnone, .nil⟩
  | some hcell => cases hcell with
    | list hsize hitems => exact ⟨hsize, hitems⟩
    | record => exact ⟨hnone, .nil⟩

theorem fields (hL : L.Lawful) (h : L.Heaps heap other) (place : Nat) :
    L.keys (Entries.keys (heap.fields place)) ∧
      L.Fields (heap.fields place) (other.fields place) := by
  have hcell := h.get? place
  unfold Heap.fields
  generalize heap.cells[place]? = cell, other.cells[place]? = cell' at hcell ⊢
  cases hcell with
  | none => exact ⟨hL.nil, .nil⟩
  | some hcell => cases hcell with
    | list => exact ⟨hL.nil, .nil⟩
    | record hkeys hfields => exact ⟨hkeys, hfields⟩

theorem put (h : L.Heaps heap other) (place : Nat) {cell cell' : Cell}
    (hcell : L.Cells cell cell') : L.Heaps (heap.put place cell) (other.put place cell') where
  size := by simpa [Heap.put] using h.size
  cell {at'} c c' hc hc' := by
    simp only [Heap.put, Array.getElem?_setIfInBounds] at hc hc'
    by_cases heq : place = at'
    · rw [if_pos heq] at hc hc'
      simp only [Option.ite_none_right_eq_some, Option.some.injEq] at hc hc'
      rw [← hc.2, ← hc'.2]
      exact hcell
    · rw [if_neg heq] at hc hc'
      exact h.cell hc hc'

theorem alloc (h : L.Heaps heap other) {cell cell' : Cell} (hcell : L.Cells cell cell') :
    (heap.alloc cell).1 = (other.alloc cell').1 ∧
      L.Heaps (heap.alloc cell).2 (other.alloc cell').2 := by
  refine ⟨h.size, by simpa [Heap.alloc] using h.size, fun {place} c c' hc hc' => ?_⟩
  simp only [Heap.alloc, Array.getElem?_push, h.size] at hc hc'
  by_cases heq : place = other.cells.size
  · rw [if_pos heq] at hc hc'
    cases hc
    cases hc'
    exact hcell
  · rw [if_neg heq] at hc hc'
    exact h.cell hc hc'

end Heaps

/-! ## Wider likenesses -/

/-- Everything that a likeness permits, another one permits too. -/
structure Implies (L L' : Likeness) : Prop where
  num {a b : Number} : L.num a b → L'.num a b
  text {text : String} : L.text text → L'.text text
  size {n : Nat} : L.size n → L'.size n
  keys {keys : List String} : L.keys keys → L'.keys keys

section Implies

variable {L' : Likeness} (hL : L.Implies L')

include hL

theorem Values.mono {a b : Value} (h : L.Values a b) : L'.Values a b := by
  cases h with
  | num h => exact .num (hL.num h)
  | str h => exact .str (hL.text h)
  | textMethod method h stamp => exact .textMethod method (hL.text h) stamp
  | toFixed h stamp => exact .toFixed (hL.num h) stamp
  | _ => constructor

theorem Fields.mono {fields others : Entries Value} (h : L.Fields fields others) :
    L'.Fields fields others :=
  h.imp fun _ _ hfield => ⟨hfield.1, hfield.2.mono hL⟩

theorem Cells.mono {cell other : Cell} (h : L.Cells cell other) : L'.Cells cell other := by
  cases h with
  | list hsize hitems => exact .list (hL.size hsize) (hitems.imp fun _ _ h => h.mono hL)
  | record hkeys hfields => exact .record (hL.keys hkeys) (hfields.mono hL)

theorem Heaps.mono {heap other : Heap} (h : L.Heaps heap other) : L'.Heaps heap other :=
  ⟨h.size, fun hcell hother => (h.cell hcell hother).mono hL⟩

theorem Machines.mono {machine other : Machine} (h : L.Machines machine other) :
    L'.Machines machine other where
  heap := h.heap.mono hL
  scopes := h.scopes.imp fun _ _ hframe => ⟨hframe.values.mono hL, hframe.constants⟩
  steps := h.steps
  log := h.log
  stamps := h.stamps
  draws := h.draws

end Implies

mutual

theorem Implies.admits {L' : Likeness} (hL : L.Implies L') :
    (data : Data) → L.Admits data → L'.Admits data
  | .null, _ | .bool _, _ => trivial
  | .num _, h => hL.num h
  | .str _, h => hL.text h
  | .list items, h => ⟨hL.size h.1, hL.admitsAll items h.2⟩
  | .record fields, h => ⟨hL.keys h.1, hL.admitsFields fields h.2⟩

theorem Implies.admitsAll {L' : Likeness} (hL : L.Implies L') :
    (items : List Data) → L.AdmitsAll items → L'.AdmitsAll items
  | [], _ => trivial
  | item :: rest, h => ⟨hL.admits item h.1, hL.admitsAll rest h.2⟩

theorem Implies.admitsFields {L' : Likeness} (hL : L.Implies L') :
    (fields : List (String × Data)) → L.AdmitsFields fields → L'.AdmitsFields fields
  | [], _ => trivial
  | (_, item) :: rest, h => ⟨hL.admits item h.1, hL.admitsFields rest h.2⟩

end

/-! ## Loading data -/

mutual

/-- Data that may be given is loaded into like heaps as like values. -/
theorem load (hL : L.Lawful) {heap other : Heap} (h : L.Heaps heap other) :
    (data : Data) → L.Admits data →
      L.Values (heap.load data).1 (other.load data).1 ∧
        L.Heaps (heap.load data).2 (other.load data).2
  | .null, _ => ⟨.null, h⟩
  | .bool value, _ => ⟨.bool value, h⟩
  | .num _, hnum => ⟨.num hnum, h⟩
  | .str _, htext => ⟨.str htext, h⟩
  | .list items, ⟨hsize, hitems⟩ => by
    obtain ⟨hlength, hvalues, hfilled⟩ := loadItems hL h items hitems
    have hcell : L.Cells (.list (heap.loadItems items).1.toArray)
        (.list (other.loadItems items).1.toArray) :=
      .list (by simpa [hlength] using hsize) hvalues
    obtain ⟨hplace, hgrown⟩ := hfilled.alloc hcell
    simp only [Heap.load, hplace]
    exact ⟨.list _, hgrown⟩
  | .record fields, ⟨hkeys, hfields⟩ => by
    obtain ⟨hsame, hvalues, hfilled⟩ := loadFields hL h fields hfields
    have hcell : L.Cells (.record (heap.loadFields fields).1)
        (.record (other.loadFields fields).1) :=
      .record (by rwa [hsame]) hvalues
    obtain ⟨hplace, hgrown⟩ := hfilled.alloc hcell
    simp only [Heap.load, hplace]
    exact ⟨.record _, hgrown⟩

theorem loadItems (hL : L.Lawful) {heap other : Heap} (h : L.Heaps heap other) :
    (items : List Data) → L.AdmitsAll items →
      (heap.loadItems items).1.length = items.length ∧
        List.Forall₂ L.Values (heap.loadItems items).1 (other.loadItems items).1 ∧
          L.Heaps (heap.loadItems items).2 (other.loadItems items).2
  | [], _ => ⟨rfl, .nil, h⟩
  | item :: rest, ⟨hitem, hrest⟩ => by
    obtain ⟨hvalue, hnext⟩ := load hL h item hitem
    obtain ⟨hlength, hvalues, hlast⟩ := loadItems hL hnext rest hrest
    exact ⟨congrArg Nat.succ hlength, .cons hvalue hvalues, hlast⟩

theorem loadFields (hL : L.Lawful) {heap other : Heap} (h : L.Heaps heap other) :
    (fields : List (String × Data)) → L.AdmitsFields fields →
      Entries.keys (heap.loadFields fields).1 = Entries.keys fields ∧
        L.Fields (heap.loadFields fields).1 (other.loadFields fields).1 ∧
          L.Heaps (heap.loadFields fields).2 (other.loadFields fields).2
  | [], _ => ⟨rfl, .nil, h⟩
  | (key, item) :: rest, ⟨hitem, hrest⟩ => by
    obtain ⟨hvalue, hnext⟩ := load hL h item hitem
    obtain ⟨hkeys, hvalues, hlast⟩ := loadFields hL hnext rest hrest
    exact ⟨congrArg (key :: ·) hkeys, .cons ⟨rfl, hvalue⟩ hvalues, hlast⟩

end

end Likeness

end Canvasflow.Program
