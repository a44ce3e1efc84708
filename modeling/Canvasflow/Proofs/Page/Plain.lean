import Canvasflow.Proofs.Page.Plan
import Canvasflow.Scene.Stored

/-!
# Plain documents

A value is plain when no record in it has a key twice, a shape when its coordinates are finite and
its properties and metadata are plain, and a document when its shapes are. Every single change of a
document keeps it plain if what it puts there is: coordinates are checked for being finite, and
properties are set key by key.
-/

namespace Canvasflow

namespace Data

mutual

/-- Whether the keys of every record in a value are distinct. -/
def Plain : Data → Prop
  | .null | .bool _ | .num _ | .str _ => True
  | .list items => PlainItems items
  | .record fields => (Entries.keys fields).Nodup ∧ PlainFields fields

/-- Whether every item of a list is plain. -/
def PlainItems : List Data → Prop
  | [] => True
  | item :: rest => Plain item ∧ PlainItems rest

/-- Whether the value of every field is plain. -/
def PlainFields : List (String × Data) → Prop
  | [] => True
  | (_, item) :: rest => Plain item ∧ PlainFields rest

end

theorem plainItems_of_forall {items : List Data} (h : ∀ item ∈ items, item.Plain) :
    PlainItems items := by
  induction items with
  | nil => trivial
  | cons item rest ih =>
    exact ⟨h item List.mem_cons_self, ih fun other hmem => h other (List.mem_cons_of_mem item hmem)⟩

theorem plainFields_iff {fields : List (String × Data)} :
    PlainFields fields ↔ ∀ field ∈ fields, field.2.Plain := by
  induction fields with
  | nil => exact ⟨nofun, fun _ => trivial⟩
  | cons field rest ih =>
    rw [PlainFields, ih, List.forall_mem_cons]

end Data

/-- An entry after a write is the one that was written, or was there before. -/
theorem Entries.mem_of_mem_set {α : Type} {entries : Entries α} {key : String} {value : α}
    {entry : String × α} (h : entry ∈ set key value entries) :
    entry ∈ entries ∨ entry = (key, value) := by
  induction entries with
  | nil => exact .inr (List.mem_singleton.mp h)
  | cons first rest ih =>
    obtain ⟨k, a⟩ := first
    simp only [set] at h
    split at h
    · rename_i hkey
      rcases List.mem_cons.mp h with hnew | hrest
      · exact .inr (by rw [hnew, hkey])
      · exact .inl (List.mem_cons_of_mem _ hrest)
    · rcases List.mem_cons.mp h with rfl | hrest
      · exact .inl List.mem_cons_self
      · exact (ih hrest).imp_left (List.mem_cons_of_mem _)

namespace Data

/-- A record stays plain when a plain value is set in it. -/
theorem Plain.set {fields : Entries Data} (h : (record fields).Plain) (key : String) {value : Data}
    (hvalue : value.Plain) : (record (Entries.set key value fields)).Plain := by
  refine ⟨Entries.nodup_keys_set h.1 key value, plainFields_iff.mpr fun field hfield => ?_⟩
  rcases Entries.mem_of_mem_set hfield with hold | hnew
  · exact plainFields_iff.mp h.2 field hold
  · exact hnew ▸ hvalue

/-- A record stays plain when the fields of a plain record are set in it. -/
theorem Plain.merge {fields extra : Entries Data} (h : (record fields).Plain)
    (hextra : PlainFields extra) : (record (Entries.merge fields extra)).Plain := by
  induction extra generalizing fields with
  | nil => exact h
  | cons field rest ih => exact ih (h.set field.1 hextra.1) hextra.2

end Data

namespace Page

/-- A shape with finite coordinates whose properties and metadata are plain. -/
structure Shape.Plain (shape : Shape) : Prop where
  x : shape.x.isFinite
  y : shape.y.isFinite
  rotation : shape.rotation.isFinite
  props : (Data.record shape.props).Plain
  metadata : (Data.record shape.metadata).Plain

/-- A new shape whose properties and metadata are plain. Its coordinates are checked when it is
created. -/
structure NewShape.Plain (new : NewShape) : Prop where
  props : (Data.record new.props).Plain
  metadata : (Data.record new.metadata).Plain

/-- A patch whose properties and metadata are plain. Its coordinates are checked when it is applied.
-/
structure Patch.Plain (patch : Patch) : Prop where
  props : ∀ data ∈ patch.props?, data.Plain
  metadata : ∀ data ∈ patch.metadata?, data.Plain

namespace Document

/-- Whether every shape on the page is plain. -/
def Plain (document : Document) : Prop :=
  ∀ shape ∈ document.pageShapes, shape.Plain

variable {document next : Document} {shape : Shape} {patch : Patch}

theorem Plain.mono (h : document.Plain) (hshapes : next.shapes ⊆ document.shapes) : next.Plain :=
  fun shape hshape => h shape (List.map_subset Prod.snd hshapes hshape)

theorem Plain.of_shape? (h : document.Plain) {id : String}
    (hshape : document.shape? id = some shape) : shape.Plain :=
  h shape (List.mem_map_of_mem (Entries.mem_of_find? hshape))

/-- A page stays plain when a plain shape is stored on it. -/
theorem Plain.store (h : document.Plain) (hshape : shape.Plain) (id : String) :
    ({ document with shapes := Entries.set id shape document.shapes } : Document).Plain := by
  intro stored hstored
  obtain ⟨entry, hentry, rfl⟩ := List.mem_map.mp hstored
  rcases Entries.mem_of_mem_set hentry with hold | hnew
  · exact h _ (List.mem_map_of_mem hold)
  · exact hnew ▸ hshape

theorem isFinite_of_finite {name : String} {value : Data} {x : Float}
    (h : finite name value = .ok x) : x.isFinite := by
  unfold finite at h
  split at h
  · split at h
    · cases h
    · split at h
      · cases h
        assumption
      · cases h
  · cases h

theorem isFinite_of_patchedNumber {name : String} {value? : Option Data} {current x : Float}
    (hcurrent : current.isFinite) (h : patchedNumber name value? current = .ok x) : x.isFinite := by
  cases value? with
  | none => cases h; exact hcurrent
  | some value => exact isFinite_of_finite h

theorem plain_of_patchedFields {name : String} {value? : Option Data}
    {current fields : Entries Data} (hcurrent : (Data.record current).Plain)
    (hvalue : ∀ data ∈ value?, data.Plain)
    (h : patchedFields name value? current = .ok fields) : (Data.record fields).Plain := by
  unfold patchedFields at h
  split at h
  · cases h
    exact hcurrent
  · cases h
    exact hcurrent.merge (hvalue _ rfl).2
  · cases h

/-- A plain patch leaves a plain shape plain. -/
theorem plain_of_patched {changed : Shape} (hshape : shape.Plain) (hpatch : patch.Plain)
    (h : patched shape patch = .ok changed) : changed.Plain := by
  simp only [patched, bind_eq_ok_iff] at h
  obtain ⟨_, _, x, hx, y, hy, rotation, hrotation, props, hprops, metadata, hmetadata,
    hchanged⟩ := h
  cases hchanged
  exact ⟨isFinite_of_patchedNumber hshape.x hx, isFinite_of_patchedNumber hshape.y hy,
    isFinite_of_patchedNumber hshape.rotation hrotation,
    plain_of_patchedFields hshape.props hpatch.props hprops,
    plain_of_patchedFields hshape.metadata hpatch.metadata hmetadata⟩

/-- A page stays plain when a plain patch is applied. -/
theorem Plain.update (h : document.Plain) (hpatch : patch.Plain)
    (hupdate : document.update patch = .ok (shape, next)) : next.Plain := by
  obtain ⟨old, hold, hpatched, rfl⟩ := update_ok hupdate
  exact h.store (plain_of_patched (h.of_shape? hold) hpatch hpatched) patch.id

/-- What is accepted as a new shape is plain. -/
theorem plain_of_accept {new : NewShape} (hnew : new.Plain) {id : String}
    (h : document.accept new id = .ok shape) : shape.Plain := by
  simp only [accept, bind_eq_ok_iff] at h
  obtain ⟨_, _, _, _, x, hx, y, hy, rotation, hrotation, hshape⟩ := h
  cases hshape
  exact ⟨isFinite_of_finite hx, isFinite_of_finite hy, isFinite_of_finite hrotation, hnew.props,
    hnew.metadata⟩

/-- A page stays plain when a plain shape is created, or refused. -/
theorem Plain.create (h : document.Plain) {new : NewShape} (hnew : new.Plain) :
    (document.create new).2.Plain := by
  obtain ⟨name, issued, hidentify⟩ := identify_eq document "shape" new.id
  simp only [Document.create, hidentify]
  -- a name is issued even if the shape is refused
  have hcounted : ({ document with issued := issued } : Document).Plain := h
  cases haccept : ({ document with issued := issued } : Document).accept new name with
  | error fault => exact hcounted
  | ok shape => exact hcounted.store (plain_of_accept hnew haccept) shape.id

/-- The colour of a marker is a plain patch. -/
theorem plain_of_recoloring {marker : Marker} (h : document.recoloring? shape marker = some patch) :
    patch.Plain := by
  simp only [recoloring?, Option.ite_none_left_eq_some, Option.some.injEq] at h
  obtain ⟨_, rfl⟩ := h
  refine ⟨?_, nofun⟩
  rintro _ ⟨⟩
  exact ⟨List.nodup_singleton _, trivial, trivial⟩

end Document

end Page

end Canvasflow
