import Canvasflow.Proofs.Number.Range
import Canvasflow.Proofs.Outcome
import Canvasflow.Scene.Stored

/-!
# Reading scenes

What is written of a scene is read back as that scene (`ofData_toData`), provided that its times are
filled in, as they are in every scene that was read or made. And what data gives when it is not a
scene: a defect that is named, except that words about the scene that are no record
(`Misdescribed`), and coordinates that are integers beyond the range of doubles (`Overflowing`), are
noticed too late for that.
-/

namespace Canvasflow.Scene

open Canvasflow.Page

/-! ## What was written -/

theorem StoredShape.ofData_toData (shape : StoredShape) : ofData shape.toData = .ok shape := by
  obtain ⟨id, type, x, y, rotation, parent, props, metadata⟩ := shape
  cases parent <;> rfl

theorem StoredBinding.ofData_toData (binding : StoredBinding) :
    ofData binding.toData = .ok binding := by
  obtain ⟨id, connector, target, terminal, type⟩ := binding
  cases terminal <;> rfl

/-- Words about a scene with its times filled in. -/
structure About.Dated (about : About) : Prop where
  created : about.created.isBlank = false
  modified : about.modified.isBlank = false

theorem About.dated_complete {now : Data} (hnow : now.isBlank = false) (about : About) :
    (About.complete now about).Dated := by
  have hfilled {value other : Data} (hother : other.isBlank = false) :
      (if value.isBlank then other else value).isBlank = false := by
    split
    · exact hother
    · rename_i hvalue
      simpa using hvalue
  exact ⟨hfilled hnow, hfilled (hfilled hnow)⟩

/-- Nothing is left to fill in. -/
theorem About.Dated.complete {about : About} (h : about.Dated) (now : Data) :
    About.complete now about = about := by
  simp [About.complete, h.created, h.modified]

theorem About.ofData_toData {about : About} (h : about.Dated) (now : Data) :
    About.ofData now about.toData = .ok about :=
  congrArg Except.ok (h.complete now)

/-- How a record is read that has the parts of a scene. -/
theorem ofData_record {now : Data} {fields : Entries Data} {shapes bindings : List Data}
    (hshapes : valueOr fields "shapes" (.list []) = .list shapes)
    (hbindings : valueOr fields "bindings" (.list []) = .list bindings) :
    ofData now (.record fields) = do
      let about ← About.ofData now (valueOr fields "metadata" (.record []))
      let shapes ← shapes.mapM StoredShape.ofData
      let bindings ← bindings.mapM StoredBinding.ofData
      return ⟨(valueOr fields "schema_version" (.str currentVersion)).shown, about, shapes,
        bindings⟩ := by
  simp only [ofData, hshapes, hbindings]

/-- A scene is read back as it was written. -/
theorem ofData_toData {scene : Scene} (h : scene.about.Dated) (now : Data) :
    ofData now scene.toData = .ok scene := by
  rw [toData, ofData_record rfl rfl, mapM_map_of_inverse StoredShape.ofData_toData,
    mapM_map_of_inverse StoredBinding.ofData_toData]
  exact congrArg (· >>= fun about => .ok { scene with about := about })
    (About.ofData_toData h now)

/-- The times of a scene that was read are filled in. -/
theorem dated_of_ofData {now data : Data} (hnow : now.isBlank = false) {scene : Scene}
    (h : ofData now data = .ok scene) : scene.about.Dated := by
  have habout {words : Data} {about : About} (h : About.ofData now words = .ok about) :
      about.Dated := by
    cases words with
    | record fields =>
      cases h
      exact About.dated_complete hnow _
    | _ => cases h
  unfold ofData at h
  split at h
  · split at h
    · simp only [bind_eq_ok_iff] at h
      obtain ⟨about, hread, _, _, _, _, hscene⟩ := h
      cases hscene
      exact habout hread
    · cases h
  · cases h

/-! ## What is no scene -/

/-- Whether a coordinate of a shape is an integer beyond the range of doubles. -/
def Beyond (fields : Entries Data) (key : String) : Prop :=
  ∃ n : Int, Entries.find? key fields = some (.num (.int n)) ∧ Double.doubleRange ≤ n.natAbs

/-- Whether a shape has all that is looked at before its coordinates, and the first of these that is
no double is an integer beyond the range of doubles. -/
structure OverflowingShape (fields : Entries Data) : Prop where
  id : (Entries.find? "id" fields).isSome
  type : (Entries.find? "type" fields).isSome
  props : ∃ props, valueOr fields "props" (.record []) = .record props
  metadata : ∃ metadata, valueOr fields "meta" (.record []) = .record metadata
  coordinates : FirstBad (fun key => ∃ x, coordinate key fields = .ok x) (Beyond fields)
    ["x", "y", "rotation"]

theorem coordinate_tooLarge_iff {fields : Entries Data} {key : String} :
    coordinate key fields = .error .tooLarge ↔ Beyond fields key := by
  unfold coordinate valueOr Beyond
  cases Entries.find? key fields with
  | none => simp [Data.double, Number.toFloat?]
  | some value =>
    cases value with
    | num number =>
      cases number with
      | int n =>
        have hrange := Double.ofInt?_isSome_iff n
        cases hn : Double.ofInt? n <;> simp_all [Number.toFloat?]
      | double x => simp [Number.toFloat?]
    | _ => simp

theorem required_eq_ok_iff {kind key : String} {fields : Entries Data} {value : Data} :
    required kind key fields = .ok value ↔ Entries.find? key fields = some value := by
  unfold required
  cases Entries.find? key fields <;> simp

theorem required_ne_tooLarge (kind key : String) (fields : Entries Data) :
    required kind key fields ≠ .error .tooLarge := by
  unfold required
  cases Entries.find? key fields <;> simp

theorem coordinates_tooLarge_iff {fields : Entries Data} {α : Type}
    {build : Float → Float → Float → α} :
    (do
      let x ← coordinate "x" fields
      let y ← coordinate "y" fields
      let rotation ← coordinate "rotation" fields
      return build x y rotation) = .error .tooLarge ↔
      FirstBad (fun key => ∃ x, coordinate key fields = .ok x) (Beyond fields)
        ["x", "y", "rotation"] := by
  rw [← FirstBad.congr fun key _ => coordinate_tooLarge_iff, ← mapM_eq_error_iff]
  simp [List.mapM_cons, bind_eq_error_iff, pure, Except.pure]

/-- A shape is not read for a coordinate that is too large when nothing was wrong before. -/
theorem StoredShape.ofData_tooLarge_iff {data : Data} :
    StoredShape.ofData data = .error .tooLarge ↔
      ∃ fields, data = .record fields ∧ OverflowingShape fields := by
  constructor
  · intro h
    unfold StoredShape.ofData at h
    cases data with
    | record fields =>
      refine ⟨fields, rfl, ?_⟩
      change required "Shape" "id" fields >>= _ = .error .tooLarge at h
      rcases bind_eq_error_iff.mp h with hid | ⟨id, hid, h⟩
      · exact absurd hid (required_ne_tooLarge _ _ _)
      · split at h
        · rename_i props metadata hprops hmetadata
          rcases bind_eq_error_iff.mp h with htype | ⟨type, htype, h⟩
          · exact absurd htype (required_ne_tooLarge _ _ _)
          · exact ⟨Option.isSome_of_eq_some (required_eq_ok_iff.mp hid),
              Option.isSome_of_eq_some (required_eq_ok_iff.mp htype), ⟨props, hprops⟩,
              ⟨metadata, hmetadata⟩, coordinates_tooLarge_iff.mp h⟩
        · cases h
    | _ => cases h
  · rintro ⟨fields, rfl, h⟩
    obtain ⟨id, hid⟩ := Option.isSome_iff_exists.mp h.id
    obtain ⟨type, htype⟩ := Option.isSome_iff_exists.mp h.type
    obtain ⟨props, hprops⟩ := h.props
    obtain ⟨metadata, hmetadata⟩ := h.metadata
    unfold StoredShape.ofData
    refine bind_eq_error_iff.mpr (.inr ⟨fields, rfl, ?_⟩)
    refine bind_eq_error_iff.mpr (.inr ⟨id, required_eq_ok_iff.mpr hid, ?_⟩)
    simp only [hprops, hmetadata]
    exact bind_eq_error_iff.mpr (.inr ⟨type, required_eq_ok_iff.mpr htype,
      coordinates_tooLarge_iff.mpr h.coordinates⟩)

/-- Whether data has the parts of a scene. -/
structure Parted (fields : Entries Data) (shapes bindings : List Data) : Prop where
  shapes : valueOr fields "shapes" (.list []) = .list shapes
  bindings : valueOr fields "bindings" (.list []) = .list bindings

/-- Whether data has the parts of a scene, but words about it that are no record. -/
def Misdescribed (data : Data) : Prop :=
  ∃ fields shapes bindings, data = .record fields ∧ Parted fields shapes bindings ∧
    ∀ words, valueOr fields "metadata" (.record []) ≠ .record words

/-- Whether data has the parts of a scene, and the first of its shapes that cannot be read has a
coordinate beyond the range of doubles. -/
def Overflowing (data : Data) : Prop :=
  ∃ fields shapes bindings, data = .record fields ∧ Parted fields shapes bindings ∧
    (∃ words, valueOr fields "metadata" (.record []) = .record words) ∧
    FirstBad (fun entry => ∃ shape, StoredShape.ofData entry = .ok shape)
      (fun entry => ∃ fields, entry = .record fields ∧ OverflowingShape fields) shapes

theorem required_fails (kind key : String) (fields : Entries Data) :
    FailsAs (fun fault => ∃ defect, fault = .invalid defect) (required kind key fields) := by
  unfold required
  split
  · exact .ok _
  · exact FailsAs.error_iff.mpr ⟨_, rfl⟩

theorem entryFields_fails (kind : String) (data : Data) :
    FailsAs (fun fault => ∃ defect, fault = .invalid defect) (entryFields kind data) := by
  unfold entryFields
  split
  · exact .ok _
  · exact FailsAs.error_iff.mpr ⟨_, rfl⟩

/-- What is no binding has a defect. -/
theorem StoredBinding.ofData_fails (data : Data) :
    FailsAs (fun fault => ∃ defect, fault = .invalid defect) (StoredBinding.ofData data) := by
  refine .bind (entryFields_fails _ _) fun fields => .bind (required_fails _ _ _) fun terminal => ?_
  dsimp only
  split
  · exact FailsAs.error_iff.mpr ⟨_, rfl⟩
  · exact .bind (required_fails _ _ _) fun _ => .bind (required_fails _ _ _) fun _ =>
      .bind (required_fails _ _ _) fun _ => .ok _

/-- What is no shape is not blamed on the words about the scene. -/
theorem StoredShape.ofData_fails (data : Data) :
    FailsAs (fun fault => fault ≠ .metadataNotRecord) (StoredShape.ofData data) := by
  have hnamed {α : Type} {result : Except SceneFault α}
      (h : FailsAs (fun fault => ∃ defect, fault = .invalid defect) result) :
      FailsAs (fun fault => fault ≠ .metadataNotRecord) result := by
    refine h.mono fun fault hfault hwords => ?_
    obtain ⟨_, rfl⟩ := hfault
    cases hwords
  have hcoordinate (key : String) (fields : Entries Data) :
      FailsAs (fun fault => fault ≠ .metadataNotRecord) (coordinate key fields) := by
    unfold coordinate
    split
    · split
      · exact .ok _
      · exact FailsAs.error_iff.mpr nofun
    · exact FailsAs.error_iff.mpr nofun
  refine .bind (hnamed (entryFields_fails _ _)) fun fields =>
    .bind (hnamed (required_fails _ _ _)) fun id => ?_
  split
  · exact .bind (hnamed (required_fails _ _ _)) fun _ => .bind (hcoordinate _ _) fun _ =>
      .bind (hcoordinate _ _) fun _ => .bind (hcoordinate _ _) fun _ => .ok _
  · exact FailsAs.error_iff.mpr nofun

/-- What is read of data that has the parts of a scene. -/
theorem ofData_error_iff {now : Data} {fields : Entries Data} {shapes bindings : List Data}
    (hparts : Parted fields shapes bindings) {fault : SceneFault} :
    ofData now (.record fields) = .error fault ↔
      fault = .metadataNotRecord ∧
        (∀ words, valueOr fields "metadata" (.record []) ≠ .record words) ∨
      (∃ words, valueOr fields "metadata" (.record []) = .record words) ∧
        (shapes.mapM StoredShape.ofData = .error fault ∨
          (∃ read, shapes.mapM StoredShape.ofData = .ok read) ∧
            bindings.mapM StoredBinding.ofData = .error fault) := by
  rw [ofData_record hparts.shapes hparts.bindings]
  cases valueOr fields "metadata" (.record []) with
  | record words =>
    cases shapes.mapM StoredShape.ofData <;> cases bindings.mapM StoredBinding.ofData <;>
      simp [About.ofData, pure, Except.pure, bind, Except.bind]
  | _ => simp [About.ofData, bind, Except.bind, eq_comm]

/-- Data that does not have the parts of a scene has a defect. -/
theorem parted_or_invalid (now data : Data) :
    (∃ fields shapes bindings, data = .record fields ∧ Parted fields shapes bindings) ∨
      ∃ defect, ofData now data = .error (.invalid defect) := by
  cases data with
  | record fields =>
    simp only [ofData]
    split
    · rename_i shapes bindings hshapes hbindings
      exact .inl ⟨fields, shapes, bindings, rfl, hshapes, hbindings⟩
    · exact .inr ⟨_, rfl⟩
  | _ => exact .inr ⟨_, rfl⟩

/-- Data that cannot be read but has no defect has the parts of a scene. Either its words about the
scene are no record, or its shapes cannot be read. -/
theorem ofData_unusable_iff {now data : Data} {fault : SceneFault}
    (hfault : ∀ defect, fault ≠ .invalid defect) :
    ofData now data = .error fault ↔
      ∃ fields shapes bindings, data = .record fields ∧ Parted fields shapes bindings ∧
        (fault = .metadataNotRecord ∧
          (∀ words, valueOr fields "metadata" (.record []) ≠ .record words) ∨
        (∃ words, valueOr fields "metadata" (.record []) = .record words) ∧
          shapes.mapM StoredShape.ofData = .error fault) := by
  constructor
  · intro h
    rcases parted_or_invalid now data with ⟨fields, shapes, bindings, rfl, hparts⟩ | ⟨_, hinvalid⟩
    · refine ⟨fields, shapes, bindings, rfl, hparts, ?_⟩
      rcases (ofData_error_iff hparts).mp h with hwords | ⟨hwords, hshapes | ⟨_, hbindings⟩⟩
      · exact .inl hwords
      · exact .inr ⟨hwords, hshapes⟩
      · obtain ⟨defect, rfl⟩ := FailsAs.mapM StoredBinding.ofData_fails bindings _ hbindings
        exact absurd rfl (hfault defect)
    · rw [hinvalid] at h
      cases h
      exact absurd rfl (hfault _)
  · rintro ⟨fields, shapes, bindings, rfl, hparts, hwords | ⟨hwords, hshapes⟩⟩
    · exact (ofData_error_iff hparts).mpr (.inl hwords)
    · exact (ofData_error_iff hparts).mpr (.inr ⟨hwords, .inl hshapes⟩)

theorem ofData_metadataNotRecord_iff {now data : Data} :
    ofData now data = .error .metadataNotRecord ↔ Misdescribed data := by
  rw [ofData_unusable_iff fun _ h => by cases h]
  refine exists_congr fun fields => exists_congr fun shapes => exists_congr fun bindings =>
    and_congr_right fun _ => and_congr_right fun _ => ⟨?_, fun hwords => .inl ⟨rfl, hwords⟩⟩
  rintro (⟨_, hwords⟩ | ⟨_, hshapes⟩)
  · exact hwords
  · exact absurd rfl (FailsAs.mapM StoredShape.ofData_fails shapes _ hshapes)

theorem ofData_tooLarge_iff {now data : Data} :
    ofData now data = .error .tooLarge ↔ Overflowing data := by
  have hlist (shapes : List Data) : shapes.mapM StoredShape.ofData = .error .tooLarge ↔
      FirstBad (fun entry => ∃ shape, StoredShape.ofData entry = .ok shape)
        (fun entry => ∃ fields, entry = .record fields ∧ OverflowingShape fields) shapes :=
    mapM_eq_error_iff.trans (FirstBad.congr fun _ _ => StoredShape.ofData_tooLarge_iff)
  rw [ofData_unusable_iff fun _ h => by cases h]
  refine exists_congr fun fields => exists_congr fun shapes => exists_congr fun bindings =>
    and_congr_right fun _ => and_congr_right fun _ => ?_
  rw [hlist shapes, or_iff_right fun hwords => by cases hwords.1]

end Canvasflow.Scene
