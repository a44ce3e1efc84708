import Canvasflow.Proofs.Page.Settled
import Canvasflow.Proofs.Session.Moves

/-!
# Snapshots that are read back

A shape whose snapshot is read back as it was taken is patched by its own contents, which settles
the shape. `Shows` says that a value stands for plain data in the heap. Data that are loaded are
shown (`load_shows`), and what is shown is copied in its settled form (`Shows.plainWithin_eq`), so
`unpackWithin_pack` knows the patch exactly. `update_repacked` is the main statement: the patch is
accepted, it settles the shape, and once a shape is settled nothing changes any more.
-/

namespace Canvasflow

namespace Program

open Canvasflow.Page

/-! ## Loaded data -/

/-- Every cell of a heap is one of a later heap. -/
def Heap.Extends (heap later : Heap) : Prop :=
  ∀ {place : Nat} {cell : Cell}, heap.cells[place]? = some cell →
    later.cells[place]? = some cell

mutual

/-- A value stands for plain data in a heap. -/
inductive Shows (heap : Heap) : Value → Data → Prop
  | null : Shows heap .null .null
  | bool (value : Bool) : Shows heap (.bool value) (.bool value)
  | num (value : Number) : Shows heap (.num value) (.num value)
  | str (value : String) : Shows heap (.str value) (.str value)
  | list {place : Nat} {values : Array Value} {items : List Data}
      (hcell : heap.cells[place]? = some (.list values))
      (h : ShowsItems heap values.toList items) : Shows heap (.list place) (.list items)
  | record {place : Nat} {values : Entries Value} {fields : Entries Data}
      (hcell : heap.cells[place]? = some (.record values))
      (h : ShowsFields heap values fields) : Shows heap (.record place) (.record fields)

/-- Values stand for the items of a list. -/
inductive ShowsItems (heap : Heap) : List Value → List Data → Prop
  | nil : ShowsItems heap [] []
  | cons {value : Value} {item : Data} {values : List Value} {items : List Data}
      (h : Shows heap value item) (hrest : ShowsItems heap values items) :
      ShowsItems heap (value :: values) (item :: items)

/-- Values stand for the fields of a record, under the same keys. -/
inductive ShowsFields (heap : Heap) : Entries Value → Entries Data → Prop
  | nil : ShowsFields heap [] []
  | cons {key : String} {value : Value} {item : Data} {values : Entries Value}
      {fields : Entries Data} (h : Shows heap value item)
      (hrest : ShowsFields heap values fields) :
      ShowsFields heap ((key, value) :: values) ((key, item) :: fields)

end

variable {heap later : Heap}

theorem Heap.Extends.trans {last : Heap} (h : heap.Extends later) (hlast : later.Extends last) :
    heap.Extends last :=
  fun hcell => hlast (h hcell)

/-- A new cell leaves the others, and is found at its place. -/
theorem Heap.extends_alloc (heap : Heap) (cell : Cell) :
    heap.Extends (heap.alloc cell).2 ∧
      (heap.alloc cell).2.cells[(heap.alloc cell).1]? = some cell := by
  refine ⟨fun {place} {other} hcell => ?_, by simp [Heap.alloc]⟩
  obtain ⟨hlt, _⟩ := Array.getElem?_eq_some_iff.mp hcell
  rw [Heap.alloc, Array.getElem?_push, if_neg (Nat.ne_of_lt hlt), hcell]

mutual

/-- What is shown in a heap is shown in a later one. -/
theorem Shows.mono (h : heap.Extends later) {value : Value} {data : Data} :
    Shows heap value data → Shows later value data
  | .null => .null
  | .bool value => .bool value
  | .num value => .num value
  | .str value => .str value
  | .list hcell hitems => .list (h hcell) (hitems.mono h)
  | .record hcell hfields => .record (h hcell) (hfields.mono h)

theorem ShowsItems.mono (h : heap.Extends later) {values : List Value} {items : List Data} :
    ShowsItems heap values items → ShowsItems later values items
  | .nil => .nil
  | .cons hfirst hrest => .cons (hfirst.mono h) (hrest.mono h)

theorem ShowsFields.mono (h : heap.Extends later) {values : Entries Value}
    {fields : Entries Data} : ShowsFields heap values fields → ShowsFields later values fields
  | .nil => .nil
  | .cons hfirst hrest => .cons (hfirst.mono h) (hrest.mono h)

end

mutual

/-- Data that are loaded are shown, and what was in the heap stays there. -/
theorem load_shows (heap : Heap) : (data : Data) →
    heap.Extends (heap.load data).2 ∧ Shows (heap.load data).2 (heap.load data).1 data
  | .null => ⟨id, .null⟩
  | .bool value => ⟨id, .bool value⟩
  | .num value => ⟨id, .num value⟩
  | .str value => ⟨id, .str value⟩
  | .list items => by
    obtain ⟨hfilled, hitems⟩ := loadItems_shows heap items
    obtain ⟨hgrown, hcell⟩ :=
      (heap.loadItems items).2.extends_alloc (.list (heap.loadItems items).1.toArray)
    exact ⟨hfilled.trans hgrown, .list hcell (hitems.mono hgrown)⟩
  | .record fields => by
    obtain ⟨hfilled, hfields⟩ := loadFields_shows heap fields
    obtain ⟨hgrown, hcell⟩ :=
      (heap.loadFields fields).2.extends_alloc (.record (heap.loadFields fields).1)
    exact ⟨hfilled.trans hgrown, .record hcell (hfields.mono hgrown)⟩

theorem loadItems_shows (heap : Heap) : (items : List Data) →
    heap.Extends (heap.loadItems items).2 ∧
      ShowsItems (heap.loadItems items).2 (heap.loadItems items).1 items
  | [] => ⟨id, .nil⟩
  | item :: rest => by
    obtain ⟨hnext, hitem⟩ := load_shows heap item
    obtain ⟨hlast, hrest⟩ := loadItems_shows (heap.load item).2 rest
    exact ⟨hnext.trans hlast, .cons (hitem.mono hlast) hrest⟩

theorem loadFields_shows (heap : Heap) : (fields : List (String × Data)) →
    heap.Extends (heap.loadFields fields).2 ∧
      ShowsFields (heap.loadFields fields).2 (heap.loadFields fields).1 fields
  | [] => ⟨id, .nil⟩
  | (key, item) :: rest => by
    obtain ⟨hnext, hitem⟩ := load_shows heap item
    obtain ⟨hlast, hrest⟩ := loadFields_shows (heap.load item).2 rest
    exact ⟨hnext.trans hlast, .cons (hitem.mono hlast) hrest⟩

end

/-! ## Copies of what is shown -/

mutual

/-- What is shown is copied in its settled form, if there is room for its nesting. -/
theorem Shows.plainWithin_eq {room : Nat} {value : Value} {data : Data} (key : String) :
    Shows heap value data → data.nesting ≤ room →
      plainWithin heap key room value = .ok data.settled
  | .null, _ => by cases room <;> rfl
  | .bool _, _ => by cases room <;> rfl
  | .num _, _ => by cases room <;> rfl
  | .str _, _ => by cases room <;> rfl
  | .list hcell hitems, hroom => by
    cases room with
    | zero => cases hroom
    | succ room =>
      have hcopies := hitems.mapM_eq key (Nat.le_of_succ_le_succ hroom)
      simp only [plainWithin, Heap.items, hcell, hcopies]
      rfl
  | .record hcell hfields, hroom => by
    cases room with
    | zero => cases hroom
    | succ room =>
      have hcopies := hfields.mapM_eq (fun _ => key) (Nat.le_of_succ_le_succ hroom)
      simp only [plainWithin, Heap.fields, hcell, hcopies]
      rfl

theorem ShowsItems.mapM_eq {room : Nat} {values : List Value} {items : List Data} (key : String) :
    ShowsItems heap values items → Data.nestingItems items ≤ room →
      values.mapM (plainWithin heap key room) = .ok (Data.settledItems items)
  | .nil, _ => rfl
  | .cons hfirst hrest, hroom => by
    rw [List.mapM_cons, hfirst.plainWithin_eq key ((Nat.le_max_left _ _).trans hroom),
      hrest.mapM_eq key ((Nat.le_max_right _ _).trans hroom)]
    rfl

theorem ShowsFields.mapM_eq {room : Nat} {values : Entries Value} {fields : Entries Data}
    (key : String → String) :
    ShowsFields heap values fields → Data.nestingFields fields ≤ room →
      (values.mapM fun field => do
        return (field.1, ← plainWithin heap (key field.1) room field.2)) =
          .ok (Data.settledFields fields)
  | .nil, _ => rfl
  | .cons hfirst hrest, hroom => by
    rw [List.mapM_cons, hfirst.plainWithin_eq _ ((Nat.le_max_left _ _).trans hroom),
      hrest.mapM_eq key ((Nat.le_max_right _ _).trans hroom)]
    rfl

end

/-- What is found among fields is shown by what is found among the values. -/
theorem ShowsFields.find? {values : Entries Value} {fields : Entries Data}
    (h : ShowsFields heap values fields) {key : String} {item : Data}
    (hitem : Entries.find? key fields = some item) :
    ∃ value, Entries.find? key values = some value ∧ Shows heap value item := by
  induction fields generalizing values with
  | nil => cases hitem
  | cons field rest ih =>
    obtain ⟨k, first⟩ := field
    obtain _ | ⟨hfirst, hrest⟩ := h
    by_cases hk : k = key
    · simp only [Entries.find?, hk, if_true, Option.some.injEq] at hitem
      exact ⟨_, by simp only [Entries.find?, hk, if_true], hitem ▸ hfirst⟩
    · simp only [Entries.find?, hk, if_false] at hitem
      obtain ⟨value, hvalue, hshows⟩ := ih hrest hitem
      exact ⟨value, by simpa [Entries.find?, hk] using hvalue, hshows⟩

theorem ShowsFields.find?_none {values : Entries Value} {fields : Entries Data}
    (h : ShowsFields heap values fields) {key : String}
    (hnone : Entries.find? key fields = none) : Entries.find? key values = none := by
  induction fields generalizing values with
  | nil =>
    cases h
    rfl
  | cons field rest ih =>
    obtain ⟨k, first⟩ := field
    obtain _ | ⟨_, hrest⟩ := h
    by_cases hk : k = key
    · simp [Entries.find?, hk] at hnone
    · simp only [Entries.find?, hk, if_false] at hnone ⊢
      exact ih hrest hnone

theorem ShowsFields.filter {values : Entries Value} {fields : Entries Data}
    (h : ShowsFields heap values fields) (keep : String → Bool) :
    ShowsFields heap (values.filter fun field => keep field.1)
      (fields.filter fun field => keep field.1) := by
  induction fields generalizing values with
  | nil =>
    cases h
    exact .nil
  | cons field rest ih =>
    obtain ⟨k, first⟩ := field
    obtain _ | ⟨hfirst, hrest⟩ := h
    rw [List.filter_cons, List.filter_cons]
    cases keep k with
    | true => exact .cons hfirst (ih hrest)
    | false => exact ih hrest

/-- The text of a value that stands for writable data. -/
theorem Shows.text_eq {value : Value} {data : Data} {text : String} (h : Shows heap value data)
    (hspelled : data.spelled = .str text) : value.text heap = .ok text := by
  cases h with
  | null | list | record => cases hspelled
  | bool value => exact congrArg Except.ok (Data.str.inj hspelled)
  | str value => exact congrArg Except.ok (Data.str.inj hspelled)
  | num value =>
    rw [Data.spelled] at hspelled
    cases hwritten : value.written? with
    | none =>
      rw [hwritten] at hspelled
      cases hspelled
    | some written =>
      rw [hwritten] at hspelled
      obtain rfl := Data.str.inj hspelled
      simp only [Value.text, textRoom, Value.textWithin, hwritten]

/-! ## Snapshots -/

/-- Whether a key of a snapshot is that of a property. -/
def isProperty (key : String) : Bool :=
  !reservedKeys.contains key

/-- The fields of the snapshot of a shape. -/
def packedFields (shape : Shape) : Entries Data :=
  [("id", .str shape.id), ("type", .str shape.type), ("x", .double shape.x),
    ("y", .double shape.y), ("rotation", .double shape.rotation)] ++
    shape.props.filter (fun field => isProperty field.1) ++ [("m", .record shape.metadata)]

theorem pack_eq (shape : Shape) : pack shape = .record (packedFields shape) :=
  rfl

variable {shape : Shape} {values : Entries Value}

theorem find?_packedFields (shape : Shape) {key : String} (hkey : isProperty key = true) :
    Entries.find? key (packedFields shape) = Entries.find? key shape.props := by
  have hne (other : String) (hother : isProperty other = false) : other ≠ key := by
    rintro rfl
    rw [hkey] at hother
    cases hother
  rw [packedFields, Entries.find?_append, Entries.find?_append, Entries.find?_filter isProperty,
    if_pos hkey]
  simp [Entries.find?, hne "id" rfl, hne "type" rfl, hne "x" rfl, hne "y" rfl, hne "rotation" rfl,
    hne "m" rfl]

theorem filter_packedFields (shape : Shape) :
    (packedFields shape).filter (fun field => isProperty field.1) =
      shape.props.filter fun field => isProperty field.1 := by
  rw [packedFields, List.filter_append, List.filter_append, List.filter_filter]
  simp [isProperty, reservedKeys]

theorem find?_metadata (shape : Shape) :
    Entries.find? "m" (packedFields shape) = some (.record shape.metadata) := by
  rw [packedFields, Entries.find?_append, Entries.find?_append, Entries.find?_filter isProperty]
  rfl

/-- The properties of a shape as they are copied from its snapshot, the text like any other. -/
def copiedProps (shape : Shape) : Entries Data :=
  Entries.mapValues Data.settled (shape.props.filter fun field => isProperty field.1)

theorem keys_copiedProps (shape : Shape) :
    Entries.keys (copiedProps shape) = (Entries.keys shape.props).filter isProperty := by
  rw [copiedProps, Entries.keys_mapValues, Entries.keys_filter]

theorem find?_copiedProps (shape : Shape) {key : String} (hkey : isProperty key = true) :
    Entries.find? key (copiedProps shape) = (Entries.find? key shape.props).map Data.settled := by
  rw [copiedProps, Entries.find?_mapValues, Entries.find?_filter isProperty, if_pos hkey]

theorem settledProp_of_ne {key : String} (hkey : isProperty key = true) (hne : key ≠ "text") :
    settledProp key = Data.settled := by
  have hreserved : ¬ reservedKeys.contains key = true := by simpa [isProperty] using hkey
  funext value
  rw [settledProp, if_neg hreserved, if_neg hne]

/-- The properties of a settled shape are told by their keys and by what is found under each. -/
theorem eq_settled_properties (hplain : shape.Plain) {props : Entries Data}
    (hkeys : Entries.keys props = (Entries.keys shape.props).filter isProperty)
    (hfind : ∀ key, isProperty key = true →
      Entries.find? key props = (Entries.find? key shape.props).map (settledProp key)) :
    props = shape.settled.props.filter fun field => isProperty field.1 := by
  refine Entries.ext ?_ (hkeys ▸ hplain.props.1.filter _) fun key hmem => ?_
  · rw [hkeys, Entries.keys_filter, Shape.keys_settled_props]
  · have hkey : isProperty key = true := by
      rw [hkeys] at hmem
      exact (List.mem_filter.mp hmem).2
    rw [hfind key hkey, Entries.find?_filter isProperty, if_pos hkey, Shape.find?_settled_props]

/-- Without a text to write, the copies are all there is. -/
theorem copiedProps_eq (hplain : shape.Plain)
    (htext : Entries.find? "text" shape.props = none ∨
      Entries.find? "text" shape.props = some .null) :
    copiedProps shape = shape.settled.props.filter fun field => isProperty field.1 := by
  refine eq_settled_properties hplain (keys_copiedProps shape) fun key hkey => ?_
  rw [find?_copiedProps shape hkey]
  by_cases hne : key = "text"
  · rw [hne]
    rcases htext with hnone | hnull
    · rw [hnone]
      rfl
    · rw [hnull]
      rfl
  · rw [settledProp_of_ne hkey hne]

/-- A text is written over its copy. -/
theorem set_copiedProps (hplain : shape.Plain) {stored : Data} {text : String}
    (hstored : Entries.find? "text" shape.props = some stored)
    (hspelled : stored.spelled = .str text) :
    Entries.set "text" (.str text) (copiedProps shape) =
      shape.settled.props.filter fun field => isProperty field.1 := by
  refine eq_settled_properties hplain ?_ fun key hkey => ?_
  · rw [Entries.keys_set_of_mem, keys_copiedProps]
    rw [keys_copiedProps, List.mem_filter]
    refine ⟨(Entries.has_iff_mem_keys _ _).mp ?_, by decide⟩
    rw [Entries.has, hstored]
    rfl
  · by_cases hne : key = "text"
    · subst hne
      rw [Entries.find?_set_self, hstored, Option.map_some]
      exact congrArg some hspelled.symm
    · rw [Entries.find?_set_of_ne hne, find?_copiedProps shape hkey, settledProp_of_ne hkey hne]

/-- The properties of a snapshot are read back as those of the settled shape. -/
theorem properties_packed {room : Nat} (hplain : shape.Plain) (hworded : shape.Worded)
    (hfits : shape.Fits room) (h : ShowsFields heap values (packedFields shape)) :
    properties room heap values =
      .ok (shape.settled.props.filter fun field => isProperty field.1) := by
  have hproperties := h.filter isProperty
  rw [filter_packedFields] at hproperties
  have hcopies := hproperties.mapM_eq id
    (Data.nestingFields_le fun field hmem => hfits.1 field (List.mem_of_mem_filter hmem))
  rw [Data.settledFields_eq, ← copiedProps] at hcopies
  unfold properties
  refine bind_eq_ok_iff.mpr ⟨copiedProps shape, hcopies, ?_⟩
  have hpacked := find?_packedFields shape (show isProperty "text" = true by decide)
  rcases hworded.cases with hplainText | ⟨stored, text, hstored, hspelled⟩
  · have habsent : present? "text" values = none := by
      rcases hplainText with hnone | hnull
      · rw [present?, h.find?_none (hpacked.trans hnone)]
      · obtain ⟨value, hvalue, hshows⟩ := h.find? (hpacked.trans hnull)
        cases hshows
        rw [present?, hvalue]
    rw [habsent]
    exact congrArg Except.ok (copiedProps_eq hplain hplainText)
  · obtain ⟨value, hvalue, hshows⟩ := h.find? (hpacked.trans hstored)
    have hpresent : present? "text" values = some value := by
      rw [present?, hvalue]
      cases hshows with
      | null => cases hspelled
      | _ => rfl
    rw [hpresent]
    exact bind_eq_ok_iff.mpr ⟨text, hshows.text_eq hspelled,
      congrArg Except.ok (set_copiedProps hplain hstored hspelled)⟩

/-- The patch that the snapshot of a shape is read back as. -/
def ownPatch (shape : Shape) : Patch :=
  let props := shape.settled.props.filter fun field => isProperty field.1
  { id := shape.id
    type? := some shape.type
    x? := some (.double shape.x)
    y? := some (.double shape.y)
    rotation? := some (.double shape.rotation)
    props? := if props.isEmpty then none else some (.record props)
    metadata? := some (.record shape.settled.metadata) }

theorem coordinate?_packed {key : String} {x : Float} (hx : x.isFinite)
    (h : ShowsFields heap values (packedFields shape))
    (hfind : Entries.find? key (packedFields shape) = some (.double x)) :
    coordinate? heap key values = .ok (some (.double x)) := by
  obtain ⟨value, hvalue, hshows⟩ := h.find? hfind
  cases hshows
  rw [coordinate?, present?, hvalue]
  refine bind_eq_ok_iff.mpr ⟨x, ?_, rfl⟩
  rw [coordinate]
  exact bind_eq_ok_iff.mpr ⟨x, rfl, if_pos hx⟩

/-- The snapshot of a shape is read back, whatever heap it was loaded into. -/
theorem unpackWithin_pack {room : Nat} (hid : shape.id ≠ "") (hplain : shape.Plain)
    (hworded : shape.Worded) (hfits : shape.Fits room) (heap : Heap) :
    unpackWithin room (heap.load (pack shape)).2 (heap.load (pack shape)).1 =
      .ok (ownPatch shape) := by
  have hshows := (load_shows heap (pack shape)).2
  generalize (heap.load (pack shape)).1 = value, (heap.load (pack shape)).2 = loaded at hshows ⊢
  rw [pack_eq] at hshows
  obtain _ | _ | _ | _ | _ | ⟨hcell, h⟩ := hshows
  rename_i place values
  have hfields : loaded.fields place = values := by rw [Heap.fields, hcell]
  rw [unpackWithin, hfields]
  have hidentity : identity values = .ok shape.id := by
    have hfind : Entries.find? "id" (packedFields shape) = some (.str shape.id) := rfl
    obtain ⟨value, hvalue, hshows⟩ := h.find? hfind
    cases hshows
    rw [identity, hvalue]
    exact if_neg (by simpa using hid)
  have htype : typeName? loaded values = .ok (some shape.type) := by
    have hfind : Entries.find? "type" (packedFields shape) = some (.str shape.type) := rfl
    obtain ⟨value, hvalue, hshows⟩ := h.find? hfind
    cases hshows
    rw [typeName?, present?, hvalue]
    rfl
  have hmetadata : metadata? room loaded values = .ok (some (.record shape.settled.metadata)) := by
    obtain ⟨value, hvalue, hshows⟩ := h.find? (find?_metadata shape)
    have hcopy := hshows.plainWithin_eq "m" hfits.2
    rw [Data.settled, Data.settledFields_eq] at hcopy
    cases hshows
    rw [metadata?, present?, hvalue]
    exact bind_eq_ok_iff.mpr ⟨_, hcopy, rfl⟩
  have hx : coordinate? loaded "x" values = .ok (some (.double shape.x)) :=
    coordinate?_packed hplain.x h rfl
  have hy : coordinate? loaded "y" values = .ok (some (.double shape.y)) :=
    coordinate?_packed hplain.y h rfl
  have hrotation : coordinate? loaded "rotation" values = .ok (some (.double shape.rotation)) :=
    coordinate?_packed hplain.rotation h rfl
  simp only [unpackFieldsWithin, hidentity, htype, hx, hy, hrotation,
    properties_packed hplain hworded hfits h, hmetadata]
  rfl

end Program

/-! ## The patch -/

namespace Page

open Canvasflow.Program

variable {shape : Shape}

/-- Where all properties of the snapshot are set, a shape has the properties of the settled one. -/
theorem Shape.Plain.merge_settled (hplain : shape.Plain) :
    Entries.merge shape.props (shape.settled.props.filter fun field => isProperty field.1) =
      shape.settled.props := by
  have hkeys : Entries.keys (shape.settled.props.filter fun field => isProperty field.1) ⊆
      Entries.keys shape.props := by
    rw [Entries.keys_filter, Shape.keys_settled_props]
    exact List.filter_subset_self _
  have hdistinct : (Entries.keys
      (shape.settled.props.filter fun field => isProperty field.1)).Nodup := by
    rw [Entries.keys_filter, Shape.keys_settled_props]
    exact hplain.props.1.filter _
  have hmerged := Entries.keys_merge_of_subset hkeys
  refine Entries.ext (hmerged.trans (Shape.keys_settled_props shape).symm)
    (hmerged ▸ hplain.props.1) fun key _ => ?_
  rw [Entries.find?_merge hdistinct, Entries.find?_filter isProperty, Shape.find?_settled_props]
  cases hkey : isProperty key with
  | true => cases Entries.find? key shape.props <;> rfl
  | false =>
    -- What is named like another part of the snapshot is left as it is.
    have hreserved : reservedKeys.contains key = true := by simpa [isProperty] using hkey
    cases Entries.find? key shape.props with
    | none => rfl
    | some value => simp only [Option.map_some, settledProp, if_pos hreserved]; rfl

theorem Shape.Plain.merge_settled_metadata (hplain : shape.Plain) :
    Entries.merge shape.metadata shape.settled.metadata = shape.settled.metadata := by
  have hkeys : Entries.keys shape.settled.metadata = Entries.keys shape.metadata :=
    Shape.keys_settled_metadata shape
  have hsubset : Entries.keys shape.settled.metadata ⊆ Entries.keys shape.metadata := by
    rw [hkeys]
    exact List.Subset.refl _
  have hmerged := Entries.keys_merge_of_subset hsubset
  refine Entries.ext (hmerged.trans hkeys.symm) (hmerged ▸ hplain.metadata.1) fun key _ => ?_
  rw [Entries.find?_merge (hkeys ▸ hplain.metadata.1), Shape.find?_settled_metadata]
  cases Entries.find? key shape.metadata <;> rfl

/-- A shape that is patched by its own contents is settled. -/
theorem Shape.Plain.patched_ownPatch (hplain : shape.Plain) :
    Document.patched shape (ownPatch shape) = .ok shape.settled := by
  have hcoordinate (name : String) {x current : Float} (hx : x.isFinite) :
      Document.patchedNumber name (some (.double x)) current = .ok x := by
    simp only [Document.patchedNumber, Document.finite, Data.double, Number.toFloat?, hx, if_true]
  have hprops : Document.patchedFields "props" (ownPatch shape).props? shape.props =
      .ok shape.settled.props := by
    rw [← hplain.merge_settled]
    simp only [ownPatch]
    split
    · rename_i hempty
      rw [List.isEmpty_iff.mp hempty]
      rfl
    · rfl
  have hmetadata : Document.patchedFields "meta" (some (.record shape.settled.metadata))
      shape.metadata = .ok shape.settled.metadata :=
    congrArg Except.ok hplain.merge_settled_metadata
  simp only [Document.patched, hprops]
  simp only [ownPatch, Document.checkType, if_true, hcoordinate "x" hplain.x,
    hcoordinate "y" hplain.y, hcoordinate "rotation" hplain.rotation, hmetadata]
  rfl

namespace Document

variable {document : Document} {id : String}

/-- The page with a shape of it settled. -/
def settle (document : Document) (shape : Shape) : Document :=
  { document with shapes := Entries.set shape.id shape.settled document.shapes }

/-- A stored shape takes the patch that its snapshot is read back as. -/
theorem update_ownPatch (hnamed : document.Named) (hshape : document.shape? id = some shape)
    (hplain : shape.Plain) :
    document.update (ownPatch shape) = .ok (shape.settled, document.settle shape) := by
  have hid : document.shape? (ownPatch shape).id = some shape := by
    rw [ownPatch, hnamed.find_shape hshape, hshape]
  rw [update, hid]
  exact bind_eq_ok_iff.mpr ⟨shape.settled, hplain.patched_ownPatch, rfl⟩

/-- A shape whose snapshot is read back and applied again is settled: the patch is accepted, the
identity, the type, the parent, the place and the rotation stay, as do all keys; a text becomes what
programs write for it, other properties and the metadata are settled at any depth, and properties
named like other parts of a snapshot stay. Doing it a second time changes nothing. The room that is
needed is the nesting of what is copied (`unpack` has the room `copyRoom`), and the snapshot may be
loaded into any heap. -/
theorem update_repacked (hnamed : document.Named) (hshape : document.shape? id = some shape)
    (hplain : shape.Plain) (hworded : shape.Worded) (heap : Heap) :
    let settled := shape.settled
    let next := { document with shapes := Entries.set id settled document.shapes }
    let repack (shape : Shape) (room : Nat) :=
      unpackWithin room (heap.load (pack shape)).2 (heap.load (pack shape)).1
    (∃ room, shape.Fits room) ∧
    (∀ room, shape.Fits room →
      (∃ patch, repack shape room = .ok patch ∧ document.update patch = .ok (settled, next)) ∧
      ∃ patch, repack settled room = .ok patch ∧ next.update patch = .ok (settled, next)) ∧
    settled.id = shape.id ∧ settled.type = shape.type ∧ settled.parent? = shape.parent? ∧
    settled.x = shape.x ∧ settled.y = shape.y ∧ settled.rotation = shape.rotation ∧
    Entries.keys settled.props = Entries.keys shape.props ∧
    Entries.keys settled.metadata = Entries.keys shape.metadata ∧
    (∀ key value, Entries.find? key shape.props = some value →
      Entries.find? key settled.props = some (
        if reservedKeys.contains key then value
        else if key = "text" then value.spelled
        else value.settled)) ∧
    (∀ key value, Entries.find? key shape.metadata = some value →
      Entries.find? key settled.metadata = some value.settled) ∧
    ∀ value, Entries.find? "text" shape.props = some value → value = .null ∨
      ∃ text, (heap.load value).1.text (heap.load value).2 = .ok text ∧
        Entries.find? "text" settled.props = some (.str text) := by
  intro settled next repack
  have hid : shape.id = id := hnamed.find_shape hshape
  have hnonempty : shape.id ≠ "" := hid ▸ (hnamed.shapes _ (Entries.mem_of_find? hshape)).2
  have hupdate : document.update (ownPatch shape) = .ok (settled, next) := by
    rw [update_ownPatch hnamed hshape hplain, settle, hid]
  refine ⟨shape.exists_fits, fun room hfits => ⟨⟨ownPatch shape, ?_, hupdate⟩, ownPatch settled, ?_,
    ?_⟩, rfl, rfl, rfl, rfl, rfl, rfl, Shape.keys_settled_props shape,
    Shape.keys_settled_metadata shape, ?_, ?_, ?_⟩
  · exact unpackWithin_pack hnonempty hplain hworded hfits heap
  · have hkept : settled.id ≠ "" := hnonempty
    exact unpackWithin_pack hkept (hplain.settled hworded) hworded.settled
      (hfits.settled hplain hworded) heap
  · -- The settled shape is stored, and settling it again gives it once more.
    have hstored : next.shape? id = some settled := Entries.find?_set_self _ _ _
    have hagain := update_ownPatch (hnamed.edit (.updated hupdate)) hstored
      (hplain.settled hworded)
    rw [hagain, settle, Shape.settled_settled hplain hworded]
    have hsame : Entries.set settled.id settled next.shapes = next.shapes := by
      rw [show settled.id = id from hid, Entries.set_set]
    rw [hsame]
  · intro key value hvalue
    rw [Shape.find?_settled_props, hvalue]
    rfl
  · intro key value hvalue
    rw [Shape.find?_settled_metadata, hvalue]
    rfl
  · intro value hvalue
    refine (hworded value hvalue).spelled_eq.imp_right fun ⟨text, hspelled⟩ => ?_
    refine ⟨text, (load_shows heap value).2.text_eq hspelled, ?_⟩
    rw [Shape.find?_settled_props, hvalue, Option.map_some]
    exact congrArg some hspelled

/-- A shape with whole doubles at several depths, with a number for a text, and with properties and
metadata that are named like parts of a snapshot. -/
def mixed : Shape where
  id := "a"
  type := "geo"
  x := 1.5
  y := 0
  rotation := 0
  parent? := none
  props := [("x", .double 7), ("text", .double 5), ("note", .null),
    ("sizes", .list [.double 2, .record [("deep", .double 0.5), ("m", .double 3)]])]
  metadata := [("id", .double 4)]

theorem mixed_repacked :
    let document := (Document.empty default).put mixed
    document.Named ∧ document.shape? "a" = some mixed ∧ mixed.Plain ∧ mixed.Worded ∧
      mixed.Fits copyRoom ∧
      (∃ patch, unpack (Heap.empty.load (pack mixed)).2 (Heap.empty.load (pack mixed)).1 =
          .ok patch ∧
        document.update patch = .ok (mixed.settled, document.put mixed.settled)) ∧
      (mixed.settled.props.map fun field => (field.1, field.2.quotedForm)) =
        [("x", "7.0"), ("text", "'5'"), ("note", "None"),
          ("sizes", "[2, \x7b'deep': 0.5, 'm': 3\x7d]")] ∧
      (mixed.settled.metadata.map fun field => (field.1, field.2.quotedForm)) = [("id", "4")] := by
  intro document
  have hnamed : document.Named := by
    refine ⟨fun entry hentry => ?_, nofun⟩
    obtain rfl : entry = ("a", mixed) := List.mem_singleton.mp hentry
    exact ⟨rfl, by decide⟩
  have hplain : mixed.Plain := by
    refine ⟨by decide +kernel, by decide +kernel, by decide +kernel, ⟨by decide, ?_⟩,
      ⟨by decide, ?_⟩⟩ <;> simp [mixed, Data.PlainFields, Data.Plain, Data.PlainItems, Data.double,
        Entries.keys]
  have hworded : mixed.Worded := by
    rintro value hvalue
    obtain rfl : value = .double 5 := (Option.some.inj hvalue).symm
    exact rfl
  have hfits : mixed.Fits copyRoom :=
    ⟨by simp [mixed, Data.nesting, Data.nestingItems, Data.nestingFields, Data.double, copyRoom],
      by decide⟩
  have hshape : document.shape? "a" = some mixed := rfl
  obtain ⟨_, hroom, _⟩ := update_repacked hnamed hshape hplain hworded Heap.empty
  exact ⟨hnamed, hshape, hplain, hworded, hfits, (hroom copyRoom hfits).1, by decide +kernel,
    by decide +kernel⟩

end Document

end Page

end Canvasflow
