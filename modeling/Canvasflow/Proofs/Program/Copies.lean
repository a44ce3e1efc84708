import Canvasflow.Program.Snapshot
import Canvasflow.Proofs.Outcome
import Mathlib.Logic.Relation

/-!
# Copies of values

What is read back from a run is copied. `Copied heap value data` says that `data` is the tree that
one gets by following every reference in `value`; it has one rule for each kind of value that can be
copied, and none for native functions and namespaces. A value that is copied is therefore a finite
tree (`Copied.tree`): nothing in it is a function or a namespace, and nothing in it contains itself.
`unpackFields_copied` says that a record is read back as a patch of copies, or not at all.
-/

namespace Canvasflow.Program

open Canvasflow.Page

/-- A list or a record holds its items, or the values of its fields. -/
inductive Heap.Holds (heap : Heap) : Value → Value → Prop
  | item {place : Nat} {value : Value} (h : value ∈ (heap.items place).toList) :
      Holds heap (.list place) value
  | field {place : Nat} {key : String} {value : Value} (h : (key, value) ∈ heap.fields place) :
      Holds heap (.record place) value

/-- A value in which there is no native function, no namespace and nothing that contains itself, at
any depth. -/
def Heap.Tree (heap : Heap) (value : Value) : Prop :=
  ∀ part, Relation.ReflTransGen heap.Holds value part →
    (∀ fn, part ≠ .native fn) ∧ (∀ space, part ≠ .space space) ∧
      ¬Relation.TransGen heap.Holds part part

mutual

/-- `Copied heap value data` says that `data` is the tree that `value` refers to in the heap, with
whole doubles as integers. -/
inductive Copied (heap : Heap) : Value → Data → Prop
  | null : Copied heap .null .null
  | bool (value : Bool) : Copied heap (.bool value) (.bool value)
  | num (value : Number) : Copied heap (.num value) (.num value.settle)
  | str (value : String) : Copied heap (.str value) (.str value)
  | list {place : Nat} {copies : List Data}
      (h : CopiedItems heap (heap.items place).toList copies) :
      Copied heap (.list place) (.list copies)
  | record {place : Nat} {copies : Entries Data}
      (h : CopiedFields heap (heap.fields place) copies) :
      Copied heap (.record place) (.record copies)

/-- Items and their copies. -/
inductive CopiedItems (heap : Heap) : List Value → List Data → Prop
  | nil : CopiedItems heap [] []
  | cons {value : Value} {data : Data} {rest : List Value} {copies : List Data}
      (h : Copied heap value data) (hrest : CopiedItems heap rest copies) :
      CopiedItems heap (value :: rest) (data :: copies)

/-- Fields and their copies, under the same keys. -/
inductive CopiedFields (heap : Heap) : Entries Value → Entries Data → Prop
  | nil : CopiedFields heap [] []
  | cons {key : String} {value : Value} {data : Data} {rest : Entries Value} {copies : Entries Data}
      (h : Copied heap value data) (hrest : CopiedFields heap rest copies) :
      CopiedFields heap ((key, value) :: rest) ((key, data) :: copies)

end

variable {heap : Heap}

/-! ## Copied values are trees -/

mutual

/-- A value has one copy. -/
theorem Copied.unique {value : Value} {data other : Data} :
    Copied heap value data → Copied heap value other → data = other
  | .null, .null | .bool _, .bool _ | .num _, .num _ | .str _, .str _ => rfl
  | .list h, .list h' => congrArg Data.list (h.unique h')
  | .record h, .record h' => congrArg Data.record (h.unique h')

theorem CopiedItems.unique {items : List Value} {copies others : List Data} :
    CopiedItems heap items copies → CopiedItems heap items others → copies = others
  | .nil, .nil => rfl
  | .cons h hrest, .cons h' hrest' => congrArg₂ List.cons (h.unique h') (hrest.unique hrest')

theorem CopiedFields.unique {fields : Entries Value} {copies others : Entries Data} :
    CopiedFields heap fields copies → CopiedFields heap fields others → copies = others
  | .nil, .nil => rfl
  | .cons h hrest, .cons h' hrest' =>
    congrArg₂ List.cons (congrArg (Prod.mk _) (h.unique h')) (hrest.unique hrest')

end

theorem CopiedItems.of_mem {items : List Value} {copies : List Data}
    (h : CopiedItems heap items copies) {value : Value} (hmem : value ∈ items) :
    ∃ data, Copied heap value data ∧ sizeOf data < sizeOf copies := by
  induction items generalizing copies with
  | nil => cases hmem
  | cons item rest ih =>
    obtain _ | ⟨hitem, hrest⟩ := h
    obtain rfl | hmem := List.mem_cons.mp hmem
    · exact ⟨_, hitem, by simp only [List.cons.sizeOf_spec]; omega⟩
    · obtain ⟨data, hdata, hlt⟩ := ih hrest hmem
      exact ⟨data, hdata, by simp only [List.cons.sizeOf_spec]; omega⟩

theorem CopiedFields.of_mem {fields : Entries Value} {copies : Entries Data}
    (h : CopiedFields heap fields copies) {key : String} {value : Value}
    (hmem : (key, value) ∈ fields) :
    ∃ data, Copied heap value data ∧ sizeOf data < sizeOf copies := by
  induction fields generalizing copies with
  | nil => cases hmem
  | cons field rest ih =>
    obtain _ | ⟨hfield, hrest⟩ := h
    obtain heq | hmem := List.mem_cons.mp hmem
    · cases heq
      exact ⟨_, hfield, by simp only [List.cons.sizeOf_spec, Prod.mk.sizeOf_spec]; omega⟩
    · obtain ⟨data, hdata, hlt⟩ := ih hrest hmem
      exact ⟨data, hdata, by simp only [List.cons.sizeOf_spec]; omega⟩

/-- What a copied value holds is copied, as a smaller tree. -/
theorem Copied.holds {value part : Value} {data : Data} (h : Copied heap value data)
    (hholds : heap.Holds value part) :
    ∃ copy, Copied heap part copy ∧ sizeOf copy < sizeOf data := by
  cases hholds with
  | item hmem =>
    cases h with | list hitems =>
    obtain ⟨copy, hcopy, hlt⟩ := hitems.of_mem hmem
    exact ⟨copy, hcopy, by simp only [Data.list.sizeOf_spec]; omega⟩
  | field hmem =>
    cases h with | record hfields =>
    obtain ⟨copy, hcopy, hlt⟩ := hfields.of_mem hmem
    exact ⟨copy, hcopy, by simp only [Data.record.sizeOf_spec]; omega⟩

theorem Copied.contains {value part : Value} {data : Data} (h : Copied heap value data)
    (hcontains : Relation.TransGen heap.Holds value part) :
    ∃ copy, Copied heap part copy ∧ sizeOf copy < sizeOf data := by
  induction hcontains with
  | single hholds => exact h.holds hholds
  | tail _ hholds ih =>
    obtain ⟨between, hbetween, hlt⟩ := ih
    obtain ⟨copy, hcopy, hlt'⟩ := hbetween.holds hholds
    exact ⟨copy, hcopy, Nat.lt_trans hlt' hlt⟩

/-- A value that contains itself would have a copy inside its copy, but it has one copy only. -/
theorem Copied.acyclic {value : Value} {data : Data} (h : Copied heap value data) :
    ¬Relation.TransGen heap.Holds value value := by
  intro hcontains
  obtain ⟨copy, hcopy, hlt⟩ := h.contains hcontains
  exact absurd (h.unique hcopy ▸ hlt) (Nat.lt_irrefl _)

theorem Copied.tree {value : Value} {data : Data} (h : Copied heap value data) :
    heap.Tree value := by
  intro part hpart
  -- every part has a copy, and what has one is none of the three
  obtain ⟨copy, hcopy⟩ : ∃ copy, Copied heap part copy := by
    rcases Relation.reflTransGen_iff_eq_or_transGen.mp hpart with rfl | hcontains
    · exact ⟨data, h⟩
    · obtain ⟨copy, hcopy, _⟩ := h.contains hcontains
      exact ⟨copy, hcopy⟩
  refine ⟨?_, ?_, hcopy.acyclic⟩
  · rintro fn rfl
    cases hcopy
  · rintro space rfl
    cases hcopy

/-! ## What is read back is copied -/

theorem mapM_copiedItems {copy : Value → Except Failure Data} {items : List Value}
    {copies : List Data} (hcopy : ∀ {value data}, copy value = .ok data → Copied heap value data)
    (h : items.mapM copy = .ok copies) : CopiedItems heap items copies := by
  induction items generalizing copies with
  | nil =>
    cases h
    exact .nil
  | cons item rest ih =>
    simp only [List.mapM_cons, bind_eq_ok_iff] at h
    obtain ⟨data, hdata, others, hothers, hcopies⟩ := h
    cases hcopies
    exact .cons (hcopy hdata) (ih hothers)

theorem mapM_copiedFields (copy : String → Value → Except Failure Data) {fields : Entries Value}
    {copies : Entries Data}
    (hcopy : ∀ {key value data}, copy key value = .ok data → Copied heap value data)
    (h : (fields.mapM fun field => do return (field.1, ← copy field.1 field.2)) = .ok copies) :
    CopiedFields heap fields copies := by
  induction fields generalizing copies with
  | nil =>
    cases h
    exact .nil
  | cons field rest ih =>
    simp only [List.mapM_cons, bind_eq_ok_iff] at h
    obtain ⟨_, ⟨data, hdata, hfield⟩, others, hothers, hcopies⟩ := h
    cases hfield
    cases hcopies
    exact .cons (hcopy hdata) (ih hothers)

/-- Plain data is a copy: what cannot be copied is refused. -/
theorem plainWithin_copied {key : String} {room : Nat} {value : Value} {data : Data}
    (h : plainWithin heap key room value = .ok data) : Copied heap value data := by
  induction room generalizing key value data with
  | zero =>
    cases value <;> cases h <;> constructor
  | succ room ih =>
    cases value with
    | list place =>
      simp only [plainWithin, bind_eq_ok_iff] at h
      obtain ⟨copies, hcopies, hdata⟩ := h
      cases hdata
      exact .list (mapM_copiedItems ih hcopies)
    | record place =>
      simp only [plainWithin, bind_eq_ok_iff] at h
      obtain ⟨copies, hcopies, hdata⟩ := h
      cases hdata
      exact .record (mapM_copiedFields (fun _ => plainWithin heap key room) ih hcopies)
    | _ => cases h <;> constructor

/-- A patch whose coordinates are finite doubles and whose properties and metadata are copies of
what a record holds; the text is written out. -/
structure CopiedPatch (heap : Heap) (fields : Entries Value) (patch : Patch) : Prop where
  coordinates {data : Data} : data ∈ patch.x? ∨ data ∈ patch.y? ∨ data ∈ patch.rotation? →
    ∃ x : Float, data = .double x ∧ x.isFinite
  props : ∃ copies,
    CopiedFields heap (fields.filter fun field => !reservedKeys.contains field.1) copies ∧
      ∀ data ∈ patch.props?,
        data = .record copies ∨ ∃ text, data = .record (Entries.set "text" (.str text) copies)
  metadata : Option.Rel (Copied heap) (present? "m" fields) patch.metadata?

theorem coordinate_finite {key : String} {value : Value} {x : Float}
    (h : coordinate heap key value = .ok x) : x.isFinite := by
  have hchecked {number : Float} (hnumber : (if number.isFinite then (return number)
      else do fault (.notFinite key (← value.text heap)) : Except Failure Float) = .ok x) :
      x.isFinite := by
    split at hnumber
    · cases hnumber
      assumption
    · obtain ⟨_, _, hfault⟩ := bind_eq_ok_iff.mp hnumber
      cases hfault
  unfold coordinate at h
  split at h
  all_goals
    obtain ⟨number, _, hnumber⟩ := bind_eq_ok_iff.mp h
    exact hchecked hnumber

theorem coordinate?_finite {key : String} {fields : Entries Value} {value? : Option Data}
    (h : coordinate? heap key fields = .ok value?) {data : Data} (hdata : data ∈ value?) :
    ∃ x : Float, data = .double x ∧ x.isFinite := by
  unfold coordinate? at h
  split at h
  · cases h
    cases hdata
  · obtain ⟨x, hx, hvalue⟩ := bind_eq_ok_iff.mp h
    cases hvalue
    cases hdata
    exact ⟨x, rfl, coordinate_finite hx⟩

theorem properties_copied {room : Nat} {fields : Entries Value} {props : Entries Data}
    (h : properties room heap fields = .ok props) :
    ∃ copies,
      CopiedFields heap (fields.filter fun field => !reservedKeys.contains field.1) copies ∧
        (props = copies ∨ ∃ text, props = Entries.set "text" (.str text) copies) := by
  unfold properties at h
  obtain ⟨copies, hcopies, h⟩ := bind_eq_ok_iff.mp h
  refine ⟨copies, mapM_copiedFields (fun key => plainWithin heap key room) plainWithin_copied hcopies, ?_⟩
  split at h
  · cases h
    exact .inl rfl
  · obtain ⟨text, _, hprops⟩ := bind_eq_ok_iff.mp h
    cases hprops
    exact .inr ⟨text, rfl⟩

theorem metadata?_copied {room : Nat} {fields : Entries Value} {value? : Option Data}
    (h : metadata? room heap fields = .ok value?) :
    Option.Rel (Copied heap) (present? "m" fields) value? := by
  unfold metadata? at h
  split at h
  · rename_i habsent
    cases h
    rw [habsent]
    exact .none
  · rename_i place hpresent
    obtain ⟨data, hdata, hvalue⟩ := bind_eq_ok_iff.mp h
    cases hvalue
    rw [hpresent]
    exact .some (plainWithin_copied hdata)
  · cases h

/-- A record is read back as a patch of copies. -/
theorem unpackFields_copied {fields : Entries Value} {patch : Patch}
    (h : unpackFields heap fields = .ok patch) : CopiedPatch heap fields patch := by
  simp only [unpackFields, unpackFieldsWithin, bind_eq_ok_iff] at h
  obtain ⟨_, _, _, _, x, hx, y, hy, rotation, hrotation, props, hprops, metadata, hmetadata,
    hpatch⟩ := h
  cases hpatch
  refine ⟨?_, ?_, metadata?_copied hmetadata⟩
  · rintro data (hdata | hdata | hdata)
    · exact coordinate?_finite hx hdata
    · exact coordinate?_finite hy hdata
    · exact coordinate?_finite hrotation hdata
  · obtain ⟨copies, hcopies, hresult⟩ := properties_copied hprops
    refine ⟨copies, hcopies, ?_⟩
    dsimp only
    split
    · nofun
    · rintro _ ⟨⟩
      rcases hresult with rfl | ⟨text, rfl⟩
      · exact .inl rfl
      · exact .inr ⟨text, rfl⟩

end Canvasflow.Program
