import Canvasflow.Proofs.Number.Range
import Canvasflow.Proofs.Page.Plain
import Canvasflow.Program.Snapshot

/-!
# Settled shapes

Data are settled when no whole double of a safe magnitude is left in them, at any depth: each has
become the integer that it equals. A shape is settled when its metadata are, its text is a text or
null, and so are its other properties, apart from those that are named like other parts of a
snapshot. Settling keeps every key in its place, and what is settled stays as it is
(`settled_settled`, `Shape.settled_settled`).
-/

namespace Canvasflow

/-! ## Settled data -/

namespace Number

/-- A double is settled as the integer that it equals, if that is a safe one, and else as it is. -/
theorem settle_double (x : Float) :
    (∃ n : Int, n.natAbs ≤ settledLimit ∧ Double.equalsInt x n ∧ (double x).settle = int n) ∨
      (∀ n : Int, n.natAbs ≤ settledLimit → ¬ Double.equalsInt x n) ∧
        (double x).settle = double x := by
  have hequals (n : Int) : Double.equalsInt x n = true ↔ whole? (double x) = some n := by
    simp [Double.equalsInt, whole?]
  simp only [hequals, settle]
  cases hwhole : whole? (double x) with
  | none =>
    refine .inr ⟨fun n _ hnone => ?_, rfl⟩
    cases hnone
  | some n =>
    by_cases hsafe : n.natAbs ≤ settledLimit
    · exact .inl ⟨n, hsafe, rfl, by simp only [if_pos hsafe]⟩
    · refine .inr ⟨fun other hother heq => hsafe ?_, by simp only [if_neg hsafe]⟩
      rwa [Option.some.inj heq]

theorem settle_settle (number : Number) : number.settle.settle = number.settle := by
  cases number with
  | int n => rfl
  | double x =>
    rcases settle_double x with ⟨n, _, _, hsettle⟩ | ⟨_, hsettle⟩
    · rw [hsettle]
      rfl
    · rw [hsettle, hsettle]

end Number

namespace Data

mutual

/-- Plain data with every number settled. -/
def settled : Data → Data
  | .null => .null
  | .bool value => .bool value
  | .num value => .num value.settle
  | .str value => .str value
  | .list items => .list (settledItems items)
  | .record fields => .record (settledFields fields)

/-- Items with every number settled. -/
def settledItems : List Data → List Data
  | [] => []
  | item :: rest => settled item :: settledItems rest

/-- Fields with every number settled. -/
def settledFields : List (String × Data) → List (String × Data)
  | [] => []
  | (key, item) :: rest => (key, settled item) :: settledFields rest

end

mutual

/-- How deep lists and records are nested in a value. -/
def nesting : Data → Nat
  | .null | .bool _ | .num _ | .str _ => 0
  | .list items => nestingItems items + 1
  | .record fields => nestingFields fields + 1

/-- How deep lists and records are nested in the items of a list. -/
def nestingItems : List Data → Nat
  | [] => 0
  | item :: rest => max (nesting item) (nestingItems rest)

/-- How deep lists and records are nested in the fields of a record. -/
def nestingFields : List (String × Data) → Nat
  | [] => 0
  | (_, item) :: rest => max (nesting item) (nestingFields rest)

end

theorem settledFields_eq (fields : Entries Data) :
    settledFields fields = Entries.mapValues settled fields := by
  induction fields with
  | nil => rfl
  | cons field rest ih => rw [settledFields, ih]; rfl

theorem nesting_le_of_mem {fields : Entries Data} {field : String × Data} (h : field ∈ fields) :
    field.2.nesting ≤ nestingFields fields := by
  induction fields with
  | nil => cases h
  | cons first rest ih =>
    rw [nestingFields]
    rcases List.mem_cons.mp h with rfl | hrest
    · exact Nat.le_max_left _ _
    · exact (ih hrest).trans (Nat.le_max_right _ _)

theorem nestingFields_le {fields : Entries Data} {room : Nat}
    (h : ∀ field ∈ fields, field.2.nesting ≤ room) : nestingFields fields ≤ room := by
  induction fields with
  | nil => exact Nat.zero_le _
  | cons first rest ih =>
    rw [List.forall_mem_cons] at h
    exact Nat.max_le.mpr ⟨h.1, ih h.2⟩

mutual

theorem settled_settled : (data : Data) → data.settled.settled = data.settled
  | .null | .bool _ | .str _ => rfl
  | .num value => congrArg Data.num value.settle_settle
  | .list items => congrArg Data.list (settledItems_settledItems items)
  | .record fields => congrArg Data.record (settledFields_settledFields fields)

theorem settledItems_settledItems :
    (items : List Data) → settledItems (settledItems items) = settledItems items
  | [] => rfl
  | item :: rest => congrArg₂ List.cons (settled_settled item) (settledItems_settledItems rest)

theorem settledFields_settledFields :
    (fields : List (String × Data)) → settledFields (settledFields fields) = settledFields fields
  | [] => rfl
  | (key, item) :: rest => congrArg₂ List.cons (congrArg (Prod.mk key) (settled_settled item))
      (settledFields_settledFields rest)

end

mutual

theorem nesting_settled : (data : Data) → data.settled.nesting = data.nesting
  | .null | .bool _ | .num _ | .str _ => rfl
  | .list items => congrArg (· + 1) (nestingItems_settledItems items)
  | .record fields => congrArg (· + 1) (nestingFields_settledFields fields)

theorem nestingItems_settledItems :
    (items : List Data) → nestingItems (settledItems items) = nestingItems items
  | [] => rfl
  | item :: rest => congrArg₂ max (nesting_settled item) (nestingItems_settledItems rest)

theorem nestingFields_settledFields :
    (fields : List (String × Data)) → nestingFields (settledFields fields) = nestingFields fields
  | [] => rfl
  | (_, item) :: rest => congrArg₂ max (nesting_settled item) (nestingFields_settledFields rest)

end

mutual

theorem Plain.settled : (data : Data) → data.Plain → data.settled.Plain
  | .null, _ | .bool _, _ | .num _, _ | .str _, _ => trivial
  | .list items, h => PlainItems.settledItems items h
  | .record fields, h => by
    refine ⟨?_, PlainFields.settledFields fields h.2⟩
    rw [settledFields_eq, Entries.keys_mapValues]
    exact h.1

theorem PlainItems.settledItems :
    (items : List Data) → PlainItems items → PlainItems (settledItems items)
  | [], _ => trivial
  | item :: rest, h => ⟨Plain.settled item h.1, PlainItems.settledItems rest h.2⟩

theorem PlainFields.settledFields :
    (fields : List (String × Data)) → PlainFields fields → PlainFields (settledFields fields)
  | [], _ => trivial
  | (_, item) :: rest, h => ⟨Plain.settled item h.1, PlainFields.settledFields rest h.2⟩

end

end Data

end Canvasflow

namespace Canvasflow

namespace Data

/-- A value that programs can write as a text: anything but lists, records and integers beyond the
range of doubles. -/
def Writable : Data → Prop
  | .null | .bool _ | .str _ => True
  | .num value => value.toFloat?.isSome
  | .list _ | .record _ => False

/-- A writable value as the text that programs write for it; null stays null. -/
def spelled : Data → Data
  | .bool value => .str (if value then "true" else "false")
  | .num value => (value.written?.map Data.str).getD (.num value)
  | other => other

theorem Writable.spelled_eq {data : Data} (h : data.Writable) :
    data = .null ∨ ∃ text, data.spelled = .str text := by
  cases data with
  | null => exact .inl rfl
  | bool value => exact .inr ⟨_, rfl⟩
  | str value => exact .inr ⟨value, rfl⟩
  | num value =>
    obtain ⟨text, hwritten⟩ : ∃ text, value.written? = some text := by
      cases value with
      | double x => exact ⟨_, rfl⟩
      | int n =>
        exact ⟨_, Number.intText?_of_range ((Number.toFloat?_isSome_iff (.int n)).mp h)⟩
    exact .inr ⟨text, by rw [spelled, hwritten]; rfl⟩
  | list | record => cases h

end Data

namespace Page

open Canvasflow.Program

/-- A property of a shape when the shape is settled. -/
def settledProp (key : String) (value : Data) : Data :=
  if reservedKeys.contains key then value
  else if key = "text" then value.spelled
  else value.settled

namespace Shape

/-- A shape with its text as a text and its other properties and its metadata settled. Properties
that are named like other parts of a snapshot are left as they are. -/
def settled (shape : Shape) : Shape :=
  { shape with
    props := shape.props.map fun field => (field.1, settledProp field.1 field.2)
    metadata := Entries.mapValues Data.settled shape.metadata }

/-- Whether the text of a shape, if it has one, can be written. -/
def Worded (shape : Shape) : Prop :=
  ∀ value, Entries.find? "text" shape.props = some value → value.Writable

/-- Whether nothing is nested in a shape deeper than can be copied. -/
def Fits (room : Nat) (shape : Shape) : Prop :=
  (∀ field ∈ shape.props, field.2.nesting ≤ room) ∧ (Data.record shape.metadata).nesting ≤ room

variable {shape : Shape}

theorem exists_fits (shape : Shape) : ∃ room, shape.Fits room :=
  ⟨max (Data.nestingFields shape.props) (Data.record shape.metadata).nesting,
    fun _ hmem => (Data.nesting_le_of_mem hmem).trans (Nat.le_max_left _ _),
    Nat.le_max_right _ _⟩

@[simp] theorem keys_settled_props (shape : Shape) :
    Entries.keys shape.settled.props = Entries.keys shape.props := by
  simp [settled, Entries.keys, Function.comp_def]

@[simp] theorem keys_settled_metadata (shape : Shape) :
    Entries.keys shape.settled.metadata = Entries.keys shape.metadata :=
  Entries.keys_mapValues _ _

@[simp] theorem find?_settled_props (shape : Shape) (key : String) :
    Entries.find? key shape.settled.props =
      (Entries.find? key shape.props).map (settledProp key) :=
  Entries.find?_map settledProp key shape.props

@[simp] theorem find?_settled_metadata (shape : Shape) (key : String) :
    Entries.find? key shape.settled.metadata =
      (Entries.find? key shape.metadata).map Data.settled :=
  Entries.find?_mapValues _ _ _

/-- A shape has no text to write, or one that can be written. -/
theorem Worded.cases (h : shape.Worded) :
    (Entries.find? "text" shape.props = none ∨ Entries.find? "text" shape.props = some .null) ∨
      ∃ value text, Entries.find? "text" shape.props = some value ∧ value.spelled = .str text := by
  cases hfind : Entries.find? "text" shape.props with
  | none => exact .inl (.inl rfl)
  | some value =>
    rcases (h value hfind).spelled_eq with rfl | ⟨text, hspelled⟩
    · exact .inl (.inr rfl)
    · exact .inr ⟨value, text, rfl, hspelled⟩

theorem Worded.of_mem (h : shape.Worded) (hplain : shape.Plain) {key : String} {value : Data}
    (hmem : (key, value) ∈ shape.props) (hkey : key = "text") : value.Writable :=
  h value (hkey ▸ Entries.find?_of_mem hplain.props.1 hmem)

end Shape

theorem nesting_settledProp_le {key : String} {value : Data}
    (h : key = "text" → value.Writable) : (settledProp key value).nesting ≤ value.nesting := by
  unfold settledProp
  split
  · exact Nat.le_refl _
  · split
    · rename_i hkey
      rcases (h hkey).spelled_eq with heq | ⟨text, heq⟩ <;> rw [heq] <;> exact Nat.zero_le _
    · exact Nat.le_of_eq (Data.nesting_settled value)

theorem plain_settledProp {key : String} {value : Data} (h : key = "text" → value.Writable)
    (hplain : value.Plain) : (settledProp key value).Plain := by
  unfold settledProp
  split
  · exact hplain
  · split
    · rename_i hkey
      rcases (h hkey).spelled_eq with heq | ⟨text, heq⟩ <;> rw [heq] <;> trivial
    · exact hplain.settled value

theorem settledProp_settledProp {key : String} {value : Data} (h : key = "text" → value.Writable) :
    settledProp key (settledProp key value) = settledProp key value := by
  unfold settledProp
  split
  · rfl
  · split
    · rename_i hkey
      rcases (h hkey).spelled_eq with heq | ⟨text, heq⟩ <;> rw [heq] <;> rfl
    · exact Data.settled_settled value

namespace Shape

variable {shape : Shape}

theorem settled_settled (hplain : shape.Plain) (hworded : shape.Worded) :
    shape.settled.settled = shape.settled := by
  have hprops : shape.settled.settled.props = shape.settled.props := by
    simp only [settled, List.map_map]
    refine List.map_congr_left fun field hmem => congrArg (Prod.mk field.1) ?_
    exact settledProp_settledProp (hworded.of_mem hplain hmem)
  have hmetadata : shape.settled.settled.metadata = shape.settled.metadata := by
    simp only [settled, Entries.mapValues, List.map_map]
    refine List.map_congr_left fun field _ => congrArg (Prod.mk field.1) ?_
    exact Data.settled_settled field.2
  calc shape.settled.settled
      = { shape with
          props := shape.settled.settled.props, metadata := shape.settled.settled.metadata } := rfl
    _ = shape.settled := by rw [hprops, hmetadata]; rfl

theorem Plain.settled (hplain : shape.Plain) (hworded : shape.Worded) : shape.settled.Plain where
  x := hplain.x
  y := hplain.y
  rotation := hplain.rotation
  props := by
    refine ⟨by rw [keys_settled_props]; exact hplain.props.1, Data.plainFields_iff.mpr ?_⟩
    intro _ hfield
    obtain ⟨field, hmem, rfl⟩ := List.mem_map.mp hfield
    exact plain_settledProp (hworded.of_mem hplain hmem)
      (Data.plainFields_iff.mp hplain.props.2 field hmem)
  metadata := by
    have hfields := Data.Plain.settled (.record shape.metadata) hplain.metadata
    rwa [Data.settled, Data.settledFields_eq] at hfields

theorem Worded.settled (hworded : shape.Worded) : shape.settled.Worded := by
  intro value hfind
  rw [find?_settled_props] at hfind
  obtain ⟨old, hold, rfl⟩ := Option.map_eq_some_iff.mp hfind
  have hspelled : settledProp "text" old = old.spelled := rfl
  rcases (hworded old hold).spelled_eq with heq | ⟨text, heq⟩ <;> rw [hspelled, heq] <;> trivial

theorem Fits.settled {room : Nat} (h : shape.Fits room) (hplain : shape.Plain)
    (hworded : shape.Worded) : shape.settled.Fits room := by
  constructor
  · intro _ hfield
    obtain ⟨field, hmem, rfl⟩ := List.mem_map.mp hfield
    exact (nesting_settledProp_le (hworded.of_mem hplain hmem)).trans (h.1 field hmem)
  · have hfields := Data.nesting_settled (.record shape.metadata)
    rw [Data.settled, Data.settledFields_eq] at hfields
    exact hfields.trans_le h.2

end Shape

end Page

end Canvasflow
