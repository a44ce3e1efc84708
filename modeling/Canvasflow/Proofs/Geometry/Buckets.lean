import Canvasflow.Proofs.Geometry.GridIndex
import Mathlib.Data.List.Nodup
import Mathlib.Data.Rat.Floor
import Mathlib.Tactic.NormNum

/-!
# Buckets of a grid index

Over exact numbers a grid index is a map from keys to boxes that answers questions quickly. An index
is `Tidy` when every key stands in the buckets of exactly the cells that its box covers, and no
bucket is empty; `Tidy.perform` says that every change keeps it so. Two boxes that overlap or touch
have a point in common, and the cell of that point is covered by both (`covers_of_collides`), so a
question that looks only at the cells of its region misses nothing. `refines_map` is the main
statement.
-/

namespace Canvasflow.Geometry

instance : Floored ℚ where
  floor x := .ok ⌊x⌋

instance : LawfulBEq (Box ℚ) where
  eq_of_beq {box other} h := by
    obtain ⟨x, y, w, h⟩ := box
    obtain ⟨x', y', w', h'⟩ := other
    simpa [BEq.beq, instBEqBox.beq] using h
  rfl {box} := by simp [BEq.beq, instBEqBox.beq]

/-- A box that does not extend backwards. -/
structure Box.Upright (box : Box ℚ) : Prop where
  width : 0 ≤ box.w
  height : 0 ≤ box.h

/-- Whether a point lies in a box or on its edge. -/
structure Box.Has (box : Box ℚ) (point : Point ℚ) : Prop where
  left : box.x ≤ point.x
  right : point.x ≤ box.maxX
  top : box.y ≤ point.y
  bottom : point.y ≤ box.maxY

/-- The cell in which a point lies. -/
def cellAt (cellSize : ℚ) (point : Point ℚ) : Cell :=
  (⌊point.x / cellSize⌋, ⌊point.y / cellSize⌋)

/-- Whether a box has a point in a cell. -/
def Box.Covers (cellSize : ℚ) (box : Box ℚ) (cell : Cell) : Prop :=
  ∃ point, box.Has point ∧ cellAt cellSize point = cell

variable {cellSize : ℚ} {box other region : Box ℚ} {cell : Cell} {key : String}

/-! ## Cells of boxes -/

theorem Box.Upright.le_maxX (h : box.Upright) : box.x ≤ box.maxX :=
  le_add_of_nonneg_right h.width

theorem Box.Upright.le_maxY (h : box.Upright) : box.y ≤ box.maxY :=
  le_add_of_nonneg_right h.height

/-- The whole parts of the numbers between two bounds are those between the whole parts of the
bounds. -/
theorem exists_floor_eq_iff {first last : ℚ} (hsize : 0 < cellSize) (hle : first ≤ last) {n : ℤ} :
    (∃ x, first ≤ x ∧ x ≤ last ∧ ⌊x / cellSize⌋ = n) ↔
      ⌊first / cellSize⌋ ≤ n ∧ n ≤ ⌊last / cellSize⌋ := by
  constructor
  · rintro ⟨x, hfirst, hlast, rfl⟩
    exact ⟨Int.floor_le_floor (div_le_div_of_nonneg_right hfirst hsize.le),
      Int.floor_le_floor (div_le_div_of_nonneg_right hlast hsize.le)⟩
  · rintro ⟨hfirst, hlast⟩
    -- The number is the start of the part of that number, unless the bounds begin inside the part.
    rcases le_total first (n * cellSize) with hstart | hinside
    · refine ⟨n * cellSize, hstart, (le_div_iff₀ hsize).mp (Int.le_floor.mp hlast), ?_⟩
      rw [mul_div_cancel_right₀ _ hsize.ne', Int.floor_intCast]
    · exact ⟨first, le_refl first, hle,
        le_antisymm hfirst (Int.le_floor.mpr ((le_div_iff₀ hsize).mpr hinside))⟩

theorem mem_integersFrom {first last n : ℤ} :
    n ∈ integersFrom first last ↔ first ≤ n ∧ n ≤ last := by
  simp only [integersFrom, List.mem_map, List.mem_range]
  constructor
  · rintro ⟨offset, hoffset, rfl⟩
    omega
  · rintro ⟨hfirst, hlast⟩
    exact ⟨(n - first).toNat, by omega, by omega⟩

/-- The cells that a box covers can be told, and are those in which it has a point. -/
theorem cells_covers (hsize : 0 < cellSize) (hbox : box.Upright) :
    ∃ covered, GridIndex.cells cellSize box = .ok covered ∧
      ∀ cell, cell ∈ covered ↔ box.Covers cellSize cell := by
  refine ⟨_, rfl, fun cell => ?_⟩
  obtain ⟨column, row⟩ := cell
  have hcolumn := exists_floor_eq_iff hsize hbox.le_maxX (n := column)
  have hrow := exists_floor_eq_iff hsize hbox.le_maxY (n := row)
  simp only [List.mem_flatMap, List.mem_map, Prod.mk.injEq, mem_integersFrom]
  constructor
  · rintro ⟨_, hcolumns, _, hrows, rfl, rfl⟩
    obtain ⟨x, hleft, hright, hx⟩ := hcolumn.mpr hcolumns
    obtain ⟨y, htop, hbottom, hy⟩ := hrow.mpr hrows
    exact ⟨⟨x, y⟩, ⟨hleft, hright, htop, hbottom⟩, Prod.ext hx hy⟩
  · rintro ⟨point, hhas, hcell⟩
    have hx : ⌊point.x / cellSize⌋ = column := congrArg Prod.fst hcell
    have hy : ⌊point.y / cellSize⌋ = row := congrArg Prod.snd hcell
    exact ⟨column, hcolumn.mp ⟨point.x, hhas.left, hhas.right, hx⟩, row,
      hrow.mp ⟨point.y, hhas.top, hhas.bottom, hy⟩, rfl, rfl⟩

/-- Boxes that overlap or touch have a point in common. -/
theorem exists_has_of_collides (hbox : box.Upright) (hother : other.Upright)
    (h : box.collides other) : ∃ point, box.Has point ∧ other.Has point := by
  simp only [Box.collides, Bool.not_eq_true', Bool.or_eq_false_iff, decide_eq_false_iff_not,
    not_lt] at h
  obtain ⟨⟨⟨hleft, hright⟩, htop⟩, hbottom⟩ := h
  refine ⟨⟨max box.x other.x, max box.y other.y⟩, ?_, ?_⟩
  · exact ⟨le_max_left _ _, max_le hbox.le_maxX hright, le_max_left _ _,
      max_le hbox.le_maxY hbottom⟩
  · exact ⟨le_max_right _ _, max_le hleft hother.le_maxX, le_max_right _ _,
      max_le htop hother.le_maxY⟩

/-- Boxes that overlap or touch cover a cell in common. -/
theorem covers_of_collides (cellSize : ℚ) (hbox : box.Upright) (hother : other.Upright)
    (h : box.collides other) : ∃ cell, box.Covers cellSize cell ∧ other.Covers cellSize cell := by
  obtain ⟨point, hhas, hother⟩ := exists_has_of_collides hbox hother h
  exact ⟨cellAt cellSize point, ⟨point, hhas, rfl⟩, ⟨point, hother, rfl⟩⟩

namespace GridIndex

/-! ## Changes -/

/-- A change of an index. -/
inductive Change (K : Type) where
  | insert (key : String) (box : Box K)
  | remove (key : String)
  | clear

/-- Make a change. -/
def perform {K : Type} [Add K] [Div K] [BEq K] [Floored K] (index : GridIndex K) :
    Change K → GridIndex K × Except FloorFault Unit
  | .insert key box => index.insert key box
  | .remove key => (index.remove key, .ok ())
  | .clear => (index.clear, .ok ())

/-- The index after some changes. -/
def after {K : Type} [Add K] [Div K] [BEq K] [Floored K] (index : GridIndex K)
    (changes : List (Change K)) : GridIndex K :=
  changes.foldl (fun index change => (index.perform change).1) index

/-- The box of a key in a map after a change of the map. -/
def Change.update {K : Type} (key : String) (held? : Option (Box K)) : Change K → Option (Box K)
  | .insert other box => if other = key then some box else held?
  | .remove other => if other = key then none else held?
  | .clear => none

/-- The box that was stored last under a key, if it was not dropped later. -/
def latest? {K : Type} (changes : List (Change K)) (key : String) : Option (Box K) :=
  changes.foldl (Change.update key) none

/-- A change that stores no box that extends backwards. -/
def Change.Upright : Change ℚ → Prop
  | .insert _ box => box.Upright
  | .remove _ | .clear => True

/-! ## Buckets -/

section Buckets

variable {buckets : Std.HashMap Cell (List String)} {covered : List Cell} {name : String}

/-- The keys in the bucket of a cell of a table. -/
def bucketOf (buckets : Std.HashMap Cell (List String)) (cell : Cell) : List String :=
  (buckets[cell]?).getD []

/-- Whether no bucket of a table is empty. -/
def Filled (buckets : Std.HashMap Cell (List String)) : Prop :=
  ∀ cell : Cell, buckets[cell]? ≠ some []

theorem mem_bucketOf_enter {place : Cell} :
    name ∈ bucketOf (enter key buckets place) cell ↔
      name ∈ bucketOf buckets cell ∨ name = key ∧ cell = place := by
  unfold bucketOf enter
  rw [Std.HashMap.getElem?_alter]
  by_cases hcell : place = cell
  · subst hcell
    cases buckets[place]? <;> simp [or_comm]
  · simp [hcell, Ne.symm hcell]

theorem Filled.enter (h : Filled buckets) (key : String) (place : Cell) :
    Filled (GridIndex.enter key buckets place) := by
  intro cell
  unfold GridIndex.enter
  rw [Std.HashMap.getElem?_alter]
  by_cases hcell : place = cell
  · subst hcell
    cases buckets[place]? with
    | none => simp
    | some keys => simpa using List.ne_nil_of_mem (List.mem_insert_self (a := key) (l := keys))
  · simpa [hcell] using h cell

/-- A key that is taken out of a bucket is the only one that the bucket loses. -/
theorem bucketOf_leave (place : Cell) : bucketOf (leave key buckets place) cell =
    if cell = place then (bucketOf buckets cell).filter (· != key) else bucketOf buckets cell := by
  unfold bucketOf leave
  rw [Std.HashMap.getElem?_alter]
  by_cases hcell : place = cell
  · subst hcell
    rw [if_pos (beq_self_eq_true place), if_pos rfl]
    cases buckets[place]? with
    | none => rfl
    | some keys =>
      -- an emptied bucket is dropped, and reads as an empty one
      by_cases hrest : keys.filter (· != key) = [] <;> simp [hrest]
  · simp [hcell, Ne.symm hcell]

theorem Filled.leave (h : Filled buckets) (key : String) (place : Cell) :
    Filled (GridIndex.leave key buckets place) := by
  intro cell
  unfold GridIndex.leave
  rw [Std.HashMap.getElem?_alter]
  by_cases hcell : place = cell
  · subst hcell
    cases buckets[place]? with
    | none => simp
    | some keys =>
      simp only [beq_self_eq_true, if_true]
      split
      · exact nofun
      · rename_i hrest
        simpa using hrest
  · simpa [hcell] using h cell

/-- A key that is put into the buckets of some cells stands there, and all else is as before. -/
theorem mem_bucketOf_enters :
    name ∈ bucketOf (covered.foldl (enter key) buckets) cell ↔
      name ∈ bucketOf buckets cell ∨ name = key ∧ cell ∈ covered := by
  induction covered generalizing buckets with
  | nil => simp
  | cons first rest ih =>
    rw [List.foldl_cons, ih, mem_bucketOf_enter, List.mem_cons]
    tauto

/-- A key that is taken out of the buckets of some cells is the only one that these lose. -/
theorem bucketOf_leaves : bucketOf (covered.foldl (leave key) buckets) cell =
    if cell ∈ covered then (bucketOf buckets cell).filter (· != key) else bucketOf buckets cell := by
  induction covered generalizing buckets with
  | nil => simp
  | cons first rest ih =>
    rw [List.foldl_cons, ih, bucketOf_leave]
    by_cases hfirst : cell = first
    · by_cases hrest : cell ∈ rest <;> simp [hfirst]
    · simp [hfirst]

/-- A key that is taken out of the buckets of some cells stands there no more, and all else is as
before. -/
theorem mem_bucketOf_leaves :
    name ∈ bucketOf (covered.foldl (leave key) buckets) cell ↔
      name ∈ bucketOf buckets cell ∧ ¬ (name = key ∧ cell ∈ covered) := by
  rw [bucketOf_leaves]
  split
  · rename_i hcell
    simp [hcell]
  · rename_i hcell
    simp [hcell]

theorem Filled.foldl {change : Std.HashMap Cell (List String) → Cell →
      Std.HashMap Cell (List String)}
    (hchange : ∀ buckets, Filled buckets → ∀ cell, Filled (change buckets cell))
    (h : Filled buckets) (covered : List Cell) : Filled (covered.foldl change buckets) := by
  induction covered generalizing buckets with
  | nil => exact h
  | cons first rest ih => exact ih (hchange buckets h first)

end Buckets

/-! ## Placed keys -/

section Placement

variable {K : Type} [Add K] [Div K] [Floored K]

/-- An index in which every key stands in the buckets of exactly the cells that were told for its
box, and no bucket is empty. -/
structure Placed (index : GridIndex K) : Prop where
  told : ∀ {key : String} {entry : Indexed K}, Entries.find? key index.boxes = some entry →
    cells index.cellSize entry.box = .ok entry.cells
  placed : ∀ {key : String} {cell : Cell}, key ∈ index.bucket cell ↔
    ∃ entry, Entries.find? key index.boxes = some entry ∧ cell ∈ entry.cells
  filled : Filled index.buckets

variable {index : GridIndex K}

theorem placed_empty (cellSize : K) : (empty cellSize).Placed where
  told := by simp [empty]
  placed := by simp [bucket, empty]
  filled := by simp [Filled, empty]

theorem Placed.remove (h : index.Placed) (key : String) : (index.remove key).Placed := by
  cases hentry : Entries.find? key index.boxes with
  | none => simpa [GridIndex.remove, hentry] using h
  | some entry =>
    have hremove : index.remove key = { index with
        boxes := Entries.erase key index.boxes
        buckets := entry.cells.foldl (leave key) index.buckets } := by
      simp [GridIndex.remove, hentry]
    have hfind (name : String) : Entries.find? name (index.remove key).boxes =
        if name = key then none else Entries.find? name index.boxes := by
      rw [hremove]
      split
      · rename_i heq
        rw [heq, Entries.find?_erase_self]
      · rename_i hne
        exact Entries.find?_erase_of_ne hne _
    constructor
    case told =>
      intro name other hother
      rw [hfind] at hother
      split at hother
      · cases hother
      · rw [cellSize_remove]
        exact h.told hother
    case placed =>
      intro name cell
      have hbucket : name ∈ (index.remove key).bucket cell ↔
          name ∈ index.bucket cell ∧ ¬ (name = key ∧ cell ∈ entry.cells) := by
        rw [hremove]
        exact mem_bucketOf_leaves
      rw [hbucket, h.placed, hfind]
      by_cases hname : name = key
      · -- The key stood only in the buckets of the cells that it was taken out of.
        subst hname
        simp [hentry]
      · simp [hname]
    case filled =>
      rw [hremove]
      exact h.filled.foldl (fun _ hold cell => hold.leave key cell) _

theorem Placed.add (h : index.Placed) {box : Box K} (hfree : index.box? key = none)
    {covered : List Cell} (hcovered : cells index.cellSize box = .ok covered) :
    (index.add key ⟨box, covered⟩).Placed := by
  have hfind (name : String) : Entries.find? name (index.add key ⟨box, covered⟩).boxes =
      if name = key then some ⟨box, covered⟩ else Entries.find? name index.boxes := by
    split
    · rename_i heq
      rw [heq]
      exact Entries.find?_set_self key _ _
    · rename_i hne
      exact Entries.find?_set_of_ne hne _ _
  constructor
  case told =>
    intro name entry hentry
    rw [hfind] at hentry
    split at hentry
    · cases hentry
      exact hcovered
    · exact h.told hentry
  case placed =>
    intro name cell
    have hbucket : name ∈ (index.add key ⟨box, covered⟩).bucket cell ↔
        name ∈ index.bucket cell ∨ name = key ∧ cell ∈ covered := mem_bucketOf_enters
    rw [hbucket, h.placed, hfind]
    by_cases hname : name = key
    · subst hname
      have hnone : Entries.find? name index.boxes = none := by simpa [box?] using hfree
      simp [hnone]
    · simp [hname]
  case filled => exact h.filled.foldl (fun _ hold cell => hold.enter key cell) _

/-- Storing a box leaves keys placed, whether the index takes it or not. -/
theorem Placed.insert [BEq K] (h : index.Placed) (key : String) (box : Box K) :
    (index.insert key box).1.Placed := by
  unfold GridIndex.insert
  split
  · exact h
  · split
    · rename_i covered hcovered
      refine (h.remove key).add (by rw [box?_remove, if_pos rfl]) ?_
      rw [cellSize_remove, hcovered]
    · exact h.remove key

/-- Any number of changes leave keys placed, for cells of the same size. -/
theorem Placed.after [BEq K] (h : index.Placed) (changes : List (Change K)) :
    (index.after changes).Placed ∧ (index.after changes).cellSize = index.cellSize := by
  induction changes generalizing index with
  | nil => exact ⟨h, rfl⟩
  | cons change rest ih =>
    have hsteps : (index.perform change).1.Placed ∧
        (index.perform change).1.cellSize = index.cellSize := by
      cases change with
      | insert key box => exact ⟨h.insert key box, cellSize_insert index key box⟩
      | remove key => exact ⟨h.remove key, cellSize_remove index key⟩
      | clear => exact ⟨placed_empty index.cellSize, rfl⟩
    obtain ⟨hstep, hsize⟩ := hsteps
    obtain ⟨hrest, hsize'⟩ := ih hstep
    exact ⟨hrest, hsize'.trans hsize⟩

end Placement

/-! ## Tidy indexes -/

/-- An index with cells, whose keys are placed and whose boxes do not extend backwards. -/
structure Tidy (index : GridIndex ℚ) : Prop extends Placed index where
  positive : 0 < index.cellSize
  upright : ∀ {key : String} {box : Box ℚ}, index.box? key = some box → box.Upright

variable {index : GridIndex ℚ}

/-- A key stands in the buckets of exactly the cells in which its box has a point. -/
theorem Tidy.mem_bucket_iff (h : index.Tidy) :
    key ∈ index.bucket cell ↔
      ∃ box, index.box? key = some box ∧ box.Covers index.cellSize cell := by
  rw [h.placed]
  have hcells {entry : Indexed ℚ} (hentry : Entries.find? key index.boxes = some entry) :
      cell ∈ entry.cells ↔ entry.box.Covers index.cellSize cell := by
    have hbox : index.box? key = some entry.box := by simp [box?, hentry]
    obtain ⟨covered, hcovered, hmem⟩ := cells_covers h.positive (h.upright hbox)
    obtain rfl : covered = entry.cells := Except.ok.inj (hcovered.symm.trans (h.told hentry))
    exact hmem cell
  constructor
  · rintro ⟨entry, hentry, hcell⟩
    exact ⟨entry.box, by simp [box?, hentry], (hcells hentry).mp hcell⟩
  · rintro ⟨box, hbox, hcovers⟩
    obtain ⟨entry, hentry, rfl⟩ := Option.map_eq_some_iff.mp hbox
    exact ⟨entry, hentry, (hcells hentry).mpr hcovers⟩

theorem tidy_empty (hsize : 0 < cellSize) : (empty cellSize : GridIndex ℚ).Tidy where
  toPlaced := placed_empty cellSize
  positive := hsize
  upright := by simp [box?, empty]

theorem Tidy.remove (h : index.Tidy) (key : String) : (index.remove key).Tidy where
  toPlaced := h.toPlaced.remove key
  positive := (cellSize_remove index key).symm ▸ h.positive
  upright := by
    intro name box hbox
    rw [box?_remove] at hbox
    split at hbox
    · cases hbox
    · exact h.upright hbox

theorem Tidy.add (h : index.Tidy) (hfree : index.box? key = none) (hbox : box.Upright)
    {covered : List Cell} (hcovered : cells index.cellSize box = .ok covered) :
    (index.add key ⟨box, covered⟩).Tidy where
  toPlaced := h.toPlaced.add hfree hcovered
  positive := h.positive
  upright := by
    intro name held hheld
    rw [box?_add] at hheld
    split at hheld
    · cases hheld
      exact hbox
    · exact h.upright hheld

/-- A box is stored without a fault. It is the box of its key then, and other keys keep theirs. -/
theorem Tidy.insert (h : index.Tidy) (hbox : box.Upright) (key : String) :
    ∃ next, index.insert key box = (next, .ok ()) ∧ next.Tidy ∧ next.cellSize = index.cellSize ∧
      ∀ name, next.box? name = if key = name then some box else index.box? name := by
  by_cases hsame : index.box? key = some box
  · refine ⟨index, by simp [GridIndex.insert, hsame], h, rfl, fun name => ?_⟩
    split
    · rename_i heq
      rw [← heq, hsame]
    · rfl
  · obtain ⟨covered, hcovered, _⟩ := cells_covers h.positive hbox
    have hleft := h.remove key
    have hfree : (index.remove key).box? key = none := by rw [box?_remove, if_pos rfl]
    have hcells : cells (index.remove key).cellSize box = .ok covered := by
      rw [cellSize_remove, hcovered]
    refine ⟨(index.remove key).add key ⟨box, covered⟩, ?_, hleft.add hfree hbox hcells,
      cellSize_remove index key, fun name => ?_⟩
    · simp [GridIndex.insert, hsame, hcovered]
    · rw [box?_add, box?_remove]
      by_cases hname : key = name
      · simp [hname]
      · simp [hname, Ne.symm hname]

/-- A change is made without a fault and leaves a tidy index, in which every key has the box that a
map would have under it. -/
theorem Tidy.perform (h : index.Tidy) {change : Change ℚ} (hchange : change.Upright) :
    ∃ next, index.perform change = (next, .ok ()) ∧ next.Tidy ∧ next.cellSize = index.cellSize ∧
      ∀ name, next.box? name = change.update name (index.box? name) := by
  cases change with
  | insert key box => exact h.insert hchange key
  | remove key =>
    refine ⟨index.remove key, rfl, h.remove key, cellSize_remove index key, fun name => ?_⟩
    rw [box?_remove, Change.update]
    by_cases hname : key = name
    · simp [hname]
    · simp [hname, Ne.symm hname]
  | clear => exact ⟨index.clear, rfl, tidy_empty h.positive, rfl, fun _ => rfl⟩

/-- Any number of changes leaves a tidy index, with the boxes of a map. -/
theorem Tidy.after (h : index.Tidy) {changes : List (Change ℚ)}
    (hchanges : ∀ change ∈ changes, change.Upright) :
    (index.after changes).Tidy ∧ (index.after changes).cellSize = index.cellSize ∧
      ∀ name, (index.after changes).box? name =
        changes.foldl (Change.update name) (index.box? name) := by
  induction changes generalizing index with
  | nil => exact ⟨h, rfl, fun _ => rfl⟩
  | cons change rest ih =>
    obtain ⟨hfirst, hrest⟩ := List.forall_mem_cons.mp hchanges
    obtain ⟨next, hperform, hnext, hsize, hboxes⟩ := h.perform hfirst
    obtain ⟨htidy, hsize', hboxes'⟩ := ih hnext hrest
    have hafter : index.after (change :: rest) = next.after rest := by
      rw [GridIndex.after, List.foldl_cons, hperform]
      rfl
    rw [hafter]
    refine ⟨htidy, hsize'.trans hsize, fun name => ?_⟩
    rw [hboxes', hboxes, List.foldl_cons]

/-! ## Questions -/

section Meeting

variable {K : Type} {index : GridIndex K}

theorem mem_foldl_insert {keys found : List String} :
    key ∈ keys.foldl (fun found key => found.insert key) found ↔ key ∈ found ∨ key ∈ keys := by
  induction keys generalizing found with
  | nil => simp
  | cons first rest ih =>
    rw [List.foldl_cons, ih, List.mem_insert_iff, List.mem_cons]
    tauto

/-- The keys that are met in some cells. -/
theorem mem_candidates {covered : List Cell} {found : List String} :
    key ∈ covered.foldl (fun keys cell =>
      (index.bucket cell).foldl (fun keys key => keys.insert key) keys) found ↔
      key ∈ found ∨ ∃ cell ∈ covered, key ∈ index.bucket cell := by
  induction covered generalizing found with
  | nil => simp
  | cons first rest ih =>
    rw [List.foldl_cons, ih, mem_foldl_insert, List.exists_mem_cons_iff]
    tauto

/-- No key is met twice. -/
theorem nodup_candidates {covered : List Cell} {found : List String} (h : found.Nodup) :
    (covered.foldl (fun keys cell =>
      (index.bucket cell).foldl (fun keys key => keys.insert key) keys) found).Nodup := by
  have hstep (keys : List String) {found : List String} (h : found.Nodup) :
      (keys.foldl (fun found key => found.insert key) found).Nodup := by
    induction keys generalizing found with
    | nil => exact h
    | cons first rest ih => exact ih (List.Nodup.insert h)
  induction covered generalizing found with
  | nil => exact h
  | cons first rest ih => exact ih (hstep _ h)

/-- A question misses nothing if whatever overlaps or touches the region has a cell in common with
it. -/
theorem Placed.mem_keysIn [Add K] [Div K] [Floored K] [LT K] [DecidableLT K] (h : index.Placed)
    {region : Box K} {covered : List Cell} (hcovered : cells index.cellSize region = .ok covered)
    (hmeet : ∀ key entry, Entries.find? key index.boxes = some entry →
      entry.box.collides region → ∃ cell ∈ covered, cell ∈ entry.cells) :
    ∃ keys, index.keysIn region = .ok keys ∧ keys.Nodup ∧
      ∀ key, key ∈ keys ↔ ∃ box, index.box? key = some box ∧ box.collides region := by
  refine ⟨_, by rw [keysIn, hcovered]; rfl, (nodup_candidates List.nodup_nil).filter _,
    fun key => ?_⟩
  rw [List.mem_filter, mem_candidates]
  cases hentry : Entries.find? key index.boxes with
  | none => simp [box?, hentry]
  | some entry =>
    simp only [box?, hentry, Option.map_some, List.not_mem_nil, false_or, Option.some.injEq,
      exists_eq_left', and_iff_right_iff_imp]
    intro hcollides
    obtain ⟨cell, hregion, hown⟩ := hmeet key entry hentry hcollides
    exact ⟨cell, hregion, h.placed.mpr ⟨entry, hentry, hown⟩⟩

end Meeting

/-- A question is answered with the keys whose boxes overlap or touch the region, each once. -/
theorem Tidy.mem_keysIn (h : index.Tidy) (hregion : region.Upright) :
    ∃ keys, index.keysIn region = .ok keys ∧ keys.Nodup ∧
      ∀ key, key ∈ keys ↔ ∃ box, index.box? key = some box ∧ box.collides region := by
  obtain ⟨covered, hcovered, hcells⟩ := cells_covers h.positive hregion
  refine h.toPlaced.mem_keysIn hcovered fun key entry hentry hcollides => ?_
  have hbox : index.box? key = some entry.box := by simp [box?, hentry]
  obtain ⟨cell, hown, hcell⟩ :=
    covers_of_collides index.cellSize (h.upright hbox) hregion hcollides
  obtain ⟨own, hentry', hmem⟩ := h.placed.mp (h.mem_bucket_iff.mpr ⟨entry.box, hbox, hown⟩)
  obtain rfl : own = entry := Option.some.inj (hentry'.symm.trans hentry)
  exact ⟨cell, (hcells cell).mpr hcell, hmem⟩

/-- After any changes of an index over exact numbers, each of which succeeds, every key has the box
that was stored last under it. A region is answered with exactly the keys whose latest box overlaps
or touches it, each once; a key stands in the bucket of a cell exactly if its latest box has a point
there; and no bucket is empty. -/
theorem refines_map (hsize : 0 < cellSize) {changes : List (Change ℚ)}
    (hchanges : ∀ change ∈ changes, change.Upright) (hregion : region.Upright) :
    let index := (empty cellSize : GridIndex ℚ).after changes
    (∀ change : Change ℚ, change.Upright → (index.perform change).2 = .ok ()) ∧
      (∀ key, index.box? key = latest? changes key) ∧
      (∃ keys, index.keysIn region = .ok keys ∧ keys.Nodup ∧
        ∀ key, key ∈ keys ↔ ∃ box, latest? changes key = some box ∧ box.collides region) ∧
      (∀ key cell, key ∈ index.bucket cell ↔
        ∃ box, latest? changes key = some box ∧ box.Covers cellSize cell) ∧
      ∀ cell : Cell, index.buckets[cell]? ≠ some [] := by
  intro index
  obtain ⟨htidy, hsame, hboxes⟩ := (tidy_empty hsize).after hchanges
  have hlatest (key : String) : index.box? key = latest? changes key := hboxes key
  obtain ⟨keys, hkeys, hdistinct, hmem⟩ := htidy.mem_keysIn hregion
  refine ⟨fun change hchange => ?_, hlatest, ⟨keys, hkeys, hdistinct, fun key => ?_⟩,
    fun key cell => ?_, htidy.filled⟩
  · obtain ⟨next, hperform, _⟩ := htidy.perform hchange
    rw [hperform]
  · rw [hmem, hlatest]
  · rw [htidy.mem_bucket_iff, hlatest, hsame]
    rfl

/-- A box that is moved onto the border of a cell and touches a region at a corner, a box without
extent, and a box that is dropped. -/
def moving : List (Change ℚ) :=
  [.insert "a" ⟨-5, -5, 5, 5⟩, .insert "b" ⟨15, 0, 0, 0⟩, .insert "c" ⟨1, 1, 1, 1⟩,
    .insert "a" ⟨0, 0, 20, 1 / 2⟩, .remove "c"]

theorem moving_refines_map :
    let index := (empty 10 : GridIndex ℚ).after moving
    let region : Box ℚ := ⟨-10, -10, 10, 10⟩
    ((0 : ℚ) < 10 ∧ (∀ change ∈ moving, change.Upright) ∧ region.Upright) ∧
      (∃ keys, index.keysIn region = .ok keys ∧ ∀ key, key ∈ keys ↔ key = "a") ∧
      "a" ∈ index.bucket (2, 0) ∧ "b" ∈ index.bucket (1, 0) ∧ "c" ∉ index.bucket (0, 0) := by
  intro index region
  have hsize : (0 : ℚ) < 10 := by norm_num
  have hchanges : ∀ change ∈ moving, change.Upright := by
    simp only [moving, List.forall_mem_cons]
    exact ⟨⟨by norm_num, by norm_num⟩, ⟨by norm_num, by norm_num⟩, ⟨by norm_num, by norm_num⟩,
      ⟨by norm_num, by norm_num⟩, trivial, nofun⟩
  have hregion : region.Upright := ⟨by norm_num [region], by norm_num [region]⟩
  have hlatest (key : String) : latest? moving key =
      if "c" = key then none else if "a" = key then some ⟨0, 0, 20, 1 / 2⟩
        else if "b" = key then some ⟨15, 0, 0, 0⟩ else none := by
    simp only [latest?, moving, List.foldl_cons, List.foldl_nil, Change.update]
    split_ifs <;> rfl
  obtain ⟨_, _, ⟨keys, hkeys, _, hmem⟩, hbucket, _⟩ := refines_map hsize hchanges hregion
  refine ⟨⟨hsize, hchanges, hregion⟩, ⟨keys, hkeys, fun key => ?_⟩, ?_, ?_, ?_⟩
  · rw [hmem, hlatest]
    split_ifs with hc ha hb
    · simp [← hc]
    · subst ha
      norm_num [Box.collides, Box.maxX, Box.maxY, region]
    · subst hb
      norm_num [Box.collides, Box.maxX, Box.maxY, region]
      exact Ne.symm ha
    · simpa using Ne.symm ha
  · exact (hbucket "a" (2, 0)).mpr ⟨⟨0, 0, 20, 1 / 2⟩, by simp [hlatest], ⟨20, 0⟩,
      ⟨by norm_num, by norm_num [Box.maxX], by norm_num, by norm_num [Box.maxY]⟩,
      by norm_num [cellAt]⟩
  · exact (hbucket "b" (1, 0)).mpr ⟨⟨15, 0, 0, 0⟩, by simp [hlatest], ⟨15, 0⟩,
      ⟨by norm_num, by norm_num [Box.maxX], by norm_num, by norm_num [Box.maxY]⟩,
      by norm_num [cellAt]⟩
  · rw [hbucket, hlatest]
    simp

end GridIndex

end Canvasflow.Geometry
