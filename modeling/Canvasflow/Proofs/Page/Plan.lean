import Canvasflow.Page.Document
import Canvasflow.Proofs.Outcome
import Mathlib.Data.List.Nodup

/-!
# The plan of a page

What a page keeps while shapes are only patched, and what holds of every page that is built by the
changes of a document. The plan lists, for every shape, what no patch changes. A page is `Sound`
when its identities are distinct, what holds a shape stands below it, and bindings lead from
connectors to shapes of the page. `Sound.update`, `Sound.create`, `Sound.bind`, `Sound.unbind` and
`Sound.remove` say that the changes of a document keep pages sound.
-/

namespace Canvasflow.Page

/-- What no patch changes about a shape: its identity, its type, and what holds it. -/
structure Station where
  id : String
  type : String
  parent? : Option String
  deriving DecidableEq, Repr

/-- The station of a shape. -/
def Shape.station (shape : Shape) : Station :=
  ⟨shape.id, shape.type, shape.parent?⟩

namespace Document

/-- The stations of the shapes, from bottom to top. -/
def plan (document : Document) : Entries Station :=
  Entries.mapValues Shape.station document.shapes

/-- The place of an identity in the order of the page; what is not on the page comes after all. -/
def place (document : Document) (id : String) : Nat :=
  (Entries.keys document.plan).idxOf id

/-- What every page that documents build is like. -/
structure Sound (document : Document) : Prop where
  distinct : (Entries.keys document.plan).Nodup
  named : ∀ {id : String} {station : Station},
    Entries.find? id document.plan = some station → station.id = id
  nested : ∀ {id parent : String} {station : Station},
    Entries.find? id document.plan = some station → station.parent? = some parent →
      document.place parent < document.place id
  distinctBindings : (Entries.keys document.bindings).Nodup
  namedBindings : ∀ {id : String} {binding : Binding},
    Entries.find? id document.bindings = some binding → binding.id = id
  owned : ∀ {binding : Binding}, binding ∈ document.pageBindings →
    ∃ station, Entries.find? binding.connector document.plan = some station ∧
      station.type = document.style.connectorType
  attached : ∀ {binding : Binding}, binding ∈ document.pageBindings →
    binding.target ∈ Entries.keys document.plan
  typed : ∀ {binding : Binding}, binding ∈ document.pageBindings →
    binding.type = document.style.connectorType

variable {document next : Document}

@[simp] theorem find_plan (document : Document) (id : String) :
    Entries.find? id document.plan = (document.shape? id).map Shape.station :=
  Entries.find?_mapValues Shape.station id document.shapes

@[simp] theorem keys_plan (document : Document) :
    Entries.keys document.plan = Entries.keys document.shapes :=
  Entries.keys_mapValues Shape.station document.shapes

@[simp] theorem length_plan (document : Document) :
    document.plan.length = document.shapes.length := by
  simp [plan, Entries.mapValues]

/-- Soundness is a matter of the plan, the bindings and the type of connectors. -/
theorem Sound.congr (h : document.Sound) (hplan : next.plan = document.plan)
    (hbindings : next.bindings = document.bindings) (hstyle : next.style = document.style) :
    next.Sound := by
  obtain ⟨h₁, h₂, h₃, h₄, h₅, h₆, h₇, h₈⟩ := h
  constructor <;> simp only [place, pageBindings, hplan, hbindings, hstyle] <;> assumption

/-! ## Shapes of a sound page -/

/-- The shape of an identity carries it. -/
theorem Sound.id_eq (h : document.Sound) {id : String} {shape : Shape}
    (hshape : document.shape? id = some shape) : shape.id = id := by
  have hstation : Entries.find? id document.plan = some shape.station := by simp [hshape]
  simpa [Shape.station] using h.named hstation

/-- What holds a shape comes before it. -/
theorem Sound.place_lt (h : document.Sound) {id parent : String} {shape : Shape}
    (hshape : document.shape? id = some shape) (hparent : shape.parent? = some parent) :
    document.place parent < document.place id := by
  have hstation : Entries.find? id document.plan = some shape.station := by simp [hshape]
  exact h.nested hstation hparent

/-- An identity is on the page when its place is below the number of shapes. -/
theorem place_lt_length_iff {id : String} :
    document.place id < document.shapes.length ↔ (document.shape? id).isSome := by
  have hlength : (Entries.keys document.shapes).length = document.shapes.length := by
    simp [Entries.keys]
  rw [place, keys_plan, ← hlength, List.idxOf_lt_length_iff]
  exact (Entries.has_iff_mem_keys id _).symm

theorem place_le_length (document : Document) (id : String) :
    document.place id ≤ document.shapes.length := by
  have hle := List.idxOf_le_length (a := id) (l := Entries.keys document.shapes)
  rw [place, keys_plan]
  simpa [Entries.keys] using hle

/-- What holds a shape is on the page. -/
theorem Sound.parent_isSome (h : document.Sound) {id parent : String} {shape : Shape}
    (hshape : document.shape? id = some shape) (hparent : shape.parent? = some parent) :
    (document.shape? parent).isSome := by
  have hlt := h.place_lt hshape hparent
  have hle := place_le_length document id
  exact place_lt_length_iff.mp (by omega)

/-- Shapes and bindings are stored once each, under the identities that they carry. -/
structure Filed (document : Document) : Prop where
  distinct : (Entries.keys document.shapes).Nodup
  named : ∀ {id : String} {shape : Shape}, document.shape? id = some shape → shape.id = id
  distinctBindings : (Entries.keys document.bindings).Nodup
  namedBindings : ∀ {id : String} {binding : Binding},
    Entries.find? id document.bindings = some binding → binding.id = id

theorem Sound.filed (h : document.Sound) : document.Filed where
  distinct := keys_plan document ▸ h.distinct
  named := h.id_eq
  distinctBindings := h.distinctBindings
  namedBindings := h.namedBindings

/-- The shapes of the page are those that are found under their identities. -/
theorem Filed.mem_pageShapes (h : document.Filed) {shape : Shape} :
    shape ∈ document.pageShapes ↔ document.shape? shape.id = some shape := by
  constructor
  · intro hmem
    obtain ⟨entry, hentry, rfl⟩ := List.mem_map.mp hmem
    have hfind : document.shape? entry.1 = some entry.2 := Entries.find?_of_mem h.distinct hentry
    rwa [h.named hfind]
  · exact fun hshape => List.mem_map.mpr ⟨(shape.id, shape), Entries.mem_of_find? hshape, rfl⟩

/-- A shape that is found is on the page, under its own identity. -/
theorem Filed.mem_of_shape (h : document.Filed) {id : String} {shape : Shape}
    (hshape : document.shape? id = some shape) : shape ∈ document.pageShapes ∧ shape.id = id := by
  have hid := h.named hshape
  exact ⟨h.mem_pageShapes.mpr (by rw [hid, hshape]), hid⟩

/-- The children of a shape are the shapes that it holds. -/
theorem Filed.mem_children (h : document.Filed) {id parent : String} :
    id ∈ document.children parent ↔
      ∃ shape, document.shape? id = some shape ∧ shape.parent? = some parent := by
  simp only [children, List.mem_map, List.mem_filter, decide_eq_true_eq]
  constructor
  · rintro ⟨shape, ⟨hmem, hparent⟩, rfl⟩
    exact ⟨shape, h.mem_pageShapes.mp hmem, hparent⟩
  · rintro ⟨shape, hshape, hparent⟩
    obtain ⟨hmem, hid⟩ := h.mem_of_shape hshape
    exact ⟨shape, ⟨hmem, hparent⟩, hid⟩

/-! ## Patches -/

/-- A patch keeps the station of a shape. -/
theorem patched_station {shape changed : Shape} {patch : Patch}
    (h : patched shape patch = .ok changed) : changed.station = shape.station := by
  simp only [patched, bind_eq_ok_iff] at h
  obtain ⟨_, _, x, _, y, _, rotation, _, props, _, metadata, _, hchanged⟩ := h
  cases hchanged
  rfl

/-- What an accepted patch does: it replaces the shape that it names by one of the same station. -/
theorem update_ok {patch : Patch} {shape : Shape} (h : document.update patch = .ok (shape, next)) :
    ∃ old, document.shape? patch.id = some old ∧ patched old patch = .ok shape ∧
      next = { document with shapes := Entries.set patch.id shape document.shapes } := by
  unfold update at h
  cases hold : document.shape? patch.id with
  | none => simp [hold] at h
  | some old =>
    simp only [hold, bind_eq_ok_iff] at h
    obtain ⟨changed, hpatched, hpair⟩ := h
    cases hpair
    exact ⟨old, rfl, hpatched, rfl⟩

/-- A patch keeps the plan. -/
theorem plan_update {patch : Patch} {shape : Shape}
    (h : document.update patch = .ok (shape, next)) :
    next.plan = document.plan := by
  obtain ⟨old, hold, hpatched, rfl⟩ := update_ok h
  have hstation := patched_station hpatched
  simp only [plan, Entries.mapValues_set, hstation]
  -- The entry is written over by one with the same station, so the list of stations stays as it is.
  apply Entries.set_of_find?
  simpa [plan] using ⟨old, hold, rfl⟩

theorem Sound.update (h : document.Sound) {patch : Patch} {shape : Shape}
    (hupdate : document.update patch = .ok (shape, next)) : next.Sound := by
  refine h.congr (plan_update hupdate) ?_ ?_ <;>
    (obtain ⟨_, _, _, rfl⟩ := update_ok hupdate; rfl)

/-! ## New shapes -/

theorem identify_eq (document : Document) (kind id : String) :
    ∃ name issued, document.identify kind id = (name, { document with issued := issued }) := by
  unfold identify
  split
  · exact ⟨_, _, rfl⟩
  · exact ⟨id, document.issued, rfl⟩

/-- What an accepted new shape is like. -/
theorem accept_ok {new : NewShape} {id : String} {shape : Shape}
    (h : document.accept new id = .ok shape) :
    shape.id = id ∧ document.shape? id = none ∧
      ∀ parent, shape.parent? = some parent → (document.shape? parent).isSome := by
  simp only [accept, bind_eq_ok_iff] at h
  obtain ⟨_, hfree, parent?, hparent, x, _, y, _, rotation, _, hshape⟩ := h
  cases hshape
  refine ⟨rfl, ?_, ?_⟩
  · unfold checkFree at hfree
    split at hfree
    · cases hfree
    · rename_i hnone
      exact Option.not_isSome_iff_eq_none.mp hnone
  · rintro parent rfl
    unfold checkParent at hparent
    split at hparent <;> try cases hparent
    split at hparent
    · rename_i hhas
      cases hparent
      exact hhas
    · cases hparent

/-- What an accepted creation does: it puts the new shape on top. -/
theorem create_ok {new : NewShape} {shape : Shape} (h : document.create new = (.ok shape, next)) :
    document.shape? shape.id = none ∧
      (∀ parent, shape.parent? = some parent → (document.shape? parent).isSome) ∧
      ∃ issued, next =
        { document with issued := issued, shapes := document.shapes ++ [(shape.id, shape)] } := by
  obtain ⟨name, issued, hidentify⟩ := identify_eq document "shape" new.id
  simp only [create, hidentify] at h
  cases haccept : ({ document with issued := issued } : Document).accept new name with
  | error fault => simp [haccept] at h
  | ok accepted =>
    simp only [haccept, Prod.mk.injEq, Except.ok.injEq] at h
    obtain ⟨rfl, rfl⟩ := h
    obtain ⟨rfl, hfree, hparent⟩ := accept_ok haccept
    refine ⟨hfree, hparent, issued, ?_⟩
    have hkey : accepted.id ∉ Entries.keys document.shapes := by
      rw [← Entries.has_iff_mem_keys]
      simpa [Entries.has, shape?] using hfree
    simp [put, Entries.set_of_not_mem hkey]

/-- A refused creation may only have used up an identity. -/
theorem create_error {new : NewShape} {fault : PageFault}
    (h : document.create new = (.error fault, next)) :
    ∃ issued, next = { document with issued := issued } := by
  obtain ⟨name, issued, hidentify⟩ := identify_eq document "shape" new.id
  simp only [create, hidentify] at h
  cases haccept : ({ document with issued := issued } : Document).accept new name with
  | error fault => simp only [haccept, Prod.mk.injEq] at h; exact ⟨issued, h.2.symm⟩
  | ok accepted => simp [haccept] at h

theorem shape_append {document : Document} {id : String} (shape : Shape) (issued : Nat)
    (hfree : document.shape? id = none) (other : String) :
    ({ document with issued := issued, shapes := document.shapes ++ [(id, shape)] } :
      Document).shape? other = if other = id then some shape else document.shape? other := by
  have hkey : id ∉ Entries.keys document.shapes := by
    rw [← Entries.has_iff_mem_keys]
    simpa [Entries.has, shape?] using hfree
  simp only [shape?, ← Entries.set_of_not_mem hkey]
  split
  · rename_i heq
    rw [heq, Entries.find?_set_self]
  · rename_i hne
    exact Entries.find?_set_of_ne hne _ _

theorem Sound.create (h : document.Sound) {new : NewShape} {shape : Shape}
    (hcreate : document.create new = (.ok shape, next)) : next.Sound := by
  obtain ⟨hfree, hparent, issued, rfl⟩ := create_ok hcreate
  have hfind := shape_append shape issued hfree
  have hkey : shape.id ∉ Entries.keys document.shapes := by
    rw [← Entries.has_iff_mem_keys]
    simpa [Entries.has, shape?] using hfree
  have hkeys : Entries.keys (document.shapes ++ [(shape.id, shape)]) =
      Entries.keys document.shapes ++ [shape.id] := by simp [Entries.keys]
  constructor
  case distinct =>
    have hdistinct := h.distinct
    rw [keys_plan] at hdistinct
    simp only [keys_plan, hkeys]
    exact List.nodup_append.mpr ⟨hdistinct, by simp, by
      rintro a ha b hb rfl
      simp only [List.mem_singleton] at hb
      exact hkey (hb ▸ ha)⟩
  case named =>
    intro id station hstation
    simp only [find_plan, hfind] at hstation
    split at hstation
    · rename_i heq
      simp only [Option.map_some, Option.some.injEq] at hstation
      rw [heq, ← hstation]
      rfl
    · exact h.named (by simpa using hstation)
  case nested =>
    intro id parent station hstation hholds
    -- What was there keeps its place, and the new shape stands behind all of it.
    have hold {other : String} (hother : (document.shape? other).isSome) :
        (Entries.keys document.shapes ++ [shape.id]).idxOf other = document.place other := by
      rw [place, keys_plan]
      exact List.idxOf_append_of_mem ((Entries.has_iff_mem_keys other _).mp hother)
    simp only [place, keys_plan, hkeys]
    simp only [find_plan, hfind] at hstation
    split at hstation
    · rename_i heq
      simp only [Option.map_some, Option.some.injEq] at hstation
      subst hstation
      have hsome := hparent parent hholds
      rw [hold hsome, heq, List.idxOf_append_of_notMem hkey]
      have hlt := place_lt_length_iff.mpr hsome
      simpa [Entries.keys] using hlt
    · obtain ⟨old, hshape, rfl⟩ := Option.map_eq_some_iff.mp hstation
      rw [hold (h.parent_isSome hshape hholds), hold (by simp [hshape])]
      exact h.place_lt hshape hholds
  case distinctBindings => exact h.distinctBindings
  case namedBindings => exact h.namedBindings
  case owned =>
    intro binding hbinding
    obtain ⟨station, hstation, htype⟩ := h.owned hbinding
    refine ⟨station, ?_, htype⟩
    simp only [find_plan, hfind] at hstation ⊢
    split
    · rename_i heq
      rw [heq, hfree] at hstation
      cases hstation
    · exact hstation
  case attached =>
    intro binding hbinding
    have htarget := h.attached hbinding
    simp only [keys_plan, hkeys, List.mem_append] at htarget ⊢
    exact .inl htarget
  case typed => exact h.typed

/-- An attempt to create a shape leaves a sound page, whether it is accepted or not. -/
theorem Sound.created (h : document.Sound) (new : NewShape) : (document.create new).2.Sound := by
  rcases hcreate : document.create new with ⟨fault | shape, next⟩
  · obtain ⟨issued, rfl⟩ := create_error hcreate
    exact h.congr rfl rfl rfl
  · exact h.create hcreate

/-! ## Bindings -/

/-- Both ends of a new binding are right exactly when a connector owns it and its target is there.
-/
theorem checkEnds_ok {connector target : String}
    (h : document.checkEnds connector target = .ok ()) :
    (∃ shape, document.shape? connector = some shape ∧
      shape.type = document.style.connectorType) ∧ (document.shape? target).isSome := by
  simp only [checkEnds, bind_eq_ok_iff] at h
  obtain ⟨_, howner, htarget⟩ := h
  constructor
  · unfold checkOwner at howner
    cases hshape : document.shape? connector with
    | none => simp [hshape] at howner
    | some shape =>
      simp only [hshape] at howner
      split at howner
      · rename_i htype
        exact ⟨shape, rfl, htype⟩
      · cases howner
  · unfold checkTarget at htarget
    split at htarget
    · rename_i hhas
      exact hhas
    · cases htarget

/-- What an accepted binding does: it is the latest one, and leads from a connector to a shape of
the page. -/
theorem bind_ok {connector target : String} {terminal : Terminal} {id : String} {binding : Binding}
    (h : document.bind connector target terminal id = (.ok binding, next)) :
    binding.id ∉ Entries.keys document.bindings ∧ binding.connector = connector ∧
      binding.target = target ∧ binding.type = document.style.connectorType ∧
      (∃ shape, document.shape? connector = some shape ∧
        shape.type = document.style.connectorType) ∧
      (document.shape? target).isSome ∧
      ∃ issued, next = { document with
        issued := issued, bindings := document.bindings ++ [(binding.id, binding)] } := by
  unfold bind at h
  cases hends : document.checkEnds connector target with
  | error fault => simp [hends] at h
  | ok _ =>
    obtain ⟨name, issued, hidentify⟩ := identify_eq document "binding" id
    simp only [hends, hidentify] at h
    split at h
    · cases h
    · rename_i hfree
      cases h
      have hkey : name ∉ Entries.keys document.bindings := by
        rwa [← Entries.has_iff_mem_keys]
      obtain ⟨howner, htarget⟩ := checkEnds_ok hends
      exact ⟨hkey, rfl, rfl, rfl, howner, htarget, issued, by simp [Entries.set_of_not_mem hkey]⟩

/-- A refused binding may only have used up an identity. -/
theorem bind_error {connector target : String} {terminal : Terminal} {id : String}
    {fault : PageFault} (h : document.bind connector target terminal id = (.error fault, next)) :
    ∃ issued, next = { document with issued := issued } := by
  unfold bind at h
  cases hends : document.checkEnds connector target with
  | error fault =>
    simp only [hends, Prod.mk.injEq] at h
    exact ⟨document.issued, h.2.symm⟩
  | ok _ =>
    obtain ⟨name, issued, hidentify⟩ := identify_eq document "binding" id
    simp only [hends, hidentify] at h
    split at h
    · cases h
      exact ⟨issued, rfl⟩
    · cases h

theorem Sound.bind (h : document.Sound) {connector target : String} {terminal : Terminal}
    {id : String} {binding : Binding}
    (hbind : document.bind connector target terminal id = (.ok binding, next)) : next.Sound := by
  obtain ⟨hkey, hconnector, htarget, htype, ⟨shape, hshape, hshapeType⟩, hsome, issued, rfl⟩ :=
    bind_ok hbind
  have hbindings {other : Binding} (hother : other ∈ ({ document with
      issued := issued
      bindings := document.bindings ++ [(binding.id, binding)] } : Document).pageBindings) :
      other ∈ document.pageBindings ∨ other = binding := by
    simpa [pageBindings, Entries.values] using hother
  constructor
  case distinct => exact h.distinct
  case named => exact h.named
  case nested => exact h.nested
  case distinctBindings =>
    have hkeys : Entries.keys (document.bindings ++ [(binding.id, binding)]) =
        Entries.keys document.bindings ++ [binding.id] := by simp [Entries.keys]
    rw [hkeys]
    exact List.nodup_append.mpr ⟨h.distinctBindings, by simp, by
      rintro a ha b hb rfl
      simp only [List.mem_singleton] at hb
      exact hkey (hb ▸ ha)⟩
  case namedBindings =>
    intro other found hfound
    simp only [← Entries.set_of_not_mem hkey] at hfound
    by_cases heq : other = binding.id
    · subst heq
      rw [Entries.find?_set_self] at hfound
      cases hfound
      rfl
    · rw [Entries.find?_set_of_ne heq] at hfound
      exact h.namedBindings hfound
  case owned =>
    intro other hother
    rcases hbindings hother with hold | rfl
    · exact h.owned hold
    · exact ⟨shape.station, by simpa [hconnector] using ⟨shape, hshape, rfl⟩, hshapeType⟩
  case attached =>
    intro other hother
    rcases hbindings hother with hold | rfl
    · exact h.attached hold
    · rw [htarget]
      rw [keys_plan]
      exact (Entries.has_iff_mem_keys target document.shapes).mp hsome
  case typed =>
    intro other hother
    rcases hbindings hother with hold | rfl
    · exact h.typed hold
    · exact htype

/-- An attempt to bind leaves a sound page, whether it is accepted or not. -/
theorem Sound.bound (h : document.Sound) (connector target : String) (terminal : Terminal)
    (id : String) :
    (document.bind connector target terminal id).2.Sound := by
  rcases hbind : document.bind connector target terminal id with ⟨fault | binding, next⟩
  · obtain ⟨issued, rfl⟩ := bind_error hbind
    exact h.congr rfl rfl rfl
  · exact h.bind hbind

/-- No binding involves what is not on the page. -/
theorem Sound.unbound_of_absent (h : document.Sound) {id : String}
    (habsent : document.shape? id = none) {binding : Binding}
    (hbinding : binding ∈ document.pageBindings) :
    binding.connector ≠ id ∧ binding.target ≠ id := by
  constructor
  · rintro rfl
    obtain ⟨station, hstation, _⟩ := h.owned hbinding
    simp [habsent] at hstation
  · rintro rfl
    have htarget := h.attached hbinding
    rw [keys_plan, ← Entries.has_iff_mem_keys] at htarget
    simp only [shape?] at habsent
    simp [Entries.has, habsent] at htarget

/-- What undoing a binding does. -/
theorem unbind_ok {id : String} {binding : Binding} (h : document.unbind id = .ok (binding, next)) :
    Entries.find? id document.bindings = some binding ∧
      next = { document with bindings := Entries.erase id document.bindings } := by
  unfold unbind at h
  cases hfind : Entries.find? id document.bindings with
  | none => simp [hfind] at h
  | some found =>
    simp only [hfind, Except.ok.injEq, Prod.mk.injEq] at h
    exact ⟨by rw [h.1], h.2.symm⟩

/-- Undoing a binding is not seen among bindings that it is not one of. -/
theorem filter_unbind (hdistinct : (Entries.keys document.bindings).Nodup) {id : String}
    {binding : Binding} (h : document.unbind id = .ok (binding, next)) {keep : Binding → Bool}
    (hkeep : keep binding = false) :
    next.pageBindings.filter keep = document.pageBindings.filter keep := by
  obtain ⟨hfind, rfl⟩ := unbind_ok h
  simp only [pageBindings, Entries.values, Entries.erase, List.filter_map, List.filter_filter,
    Function.comp_def]
  congr 1
  refine List.filter_congr fun entry hentry => ?_
  by_cases hkey : entry.1 = id
  · have hfound := Entries.find?_of_mem hdistinct hentry
    rw [hkey, hfind] at hfound
    obtain rfl := Option.some.inj hfound
    simp [hkeep]
  · simp [hkey]

theorem mem_pageBindings_erase {id : String} {binding : Binding}
    (h : binding ∈ (Entries.erase id document.bindings).values) :
    binding ∈ document.pageBindings := by
  simp only [Entries.values, Entries.erase, List.mem_map, List.mem_filter] at h
  obtain ⟨entry, ⟨hentry, _⟩, rfl⟩ := h
  exact List.mem_map_of_mem hentry

theorem Sound.unbind (h : document.Sound) {id : String} {binding : Binding}
    (hunbind : document.unbind id = .ok (binding, next)) : next.Sound := by
  obtain ⟨_, rfl⟩ := unbind_ok hunbind
  constructor
  case distinct => exact h.distinct
  case named => exact h.named
  case nested => exact h.nested
  case distinctBindings =>
    rw [Entries.keys_erase]
    exact h.distinctBindings.filter _
  case namedBindings =>
    intro other found hfound
    by_cases heq : other = id
    · subst heq
      rw [Entries.find?_erase_self] at hfound
      cases hfound
    · rw [Entries.find?_erase_of_ne heq] at hfound
      exact h.namedBindings hfound
  case owned => exact fun hother => h.owned (mem_pageBindings_erase hother)
  case attached => exact fun hother => h.attached (mem_pageBindings_erase hother)
  case typed => exact fun hother => h.typed (mem_pageBindings_erase hother)

/-! ## Removal -/

/-- Dropping items keeps the order of what is left. -/
theorem idxOf_filter_lt {keys : List String} {keep : String → Bool} {a b : String}
    (ha : keep a) (h : keys.idxOf a < keys.idxOf b) :
    (keys.filter keep).idxOf a < (keys.filter keep).idxOf b := by
  induction keys with
  | nil => simp at h
  | cons key rest ih =>
    by_cases hb : key = b
    · simp [hb] at h
    · by_cases hka : key = a
      · subst hka
        simp [List.filter_cons_of_pos ha, hb]
      · -- Neither of the two is the head, which shifts both places or is dropped.
        rw [List.idxOf_cons_ne _ hka, List.idxOf_cons_ne _ hb] at h
        have hrest := ih (by omega)
        by_cases hkeep : keep key
        · simpa [List.filter_cons_of_pos hkeep, List.idxOf_cons, hb, hka] using hrest
        · simpa [List.filter_cons_of_neg hkeep] using hrest

theorem plan_remove (document : Document) (id : String) :
    (document.remove id).plan = Entries.erase id document.plan :=
  Entries.mapValues_erase Shape.station id document.shapes

theorem shape_remove_self (document : Document) (id : String) :
    (document.remove id).shape? id = none :=
  Entries.find?_erase_self id document.shapes

theorem shape_remove_of_ne (document : Document) {id other : String} (h : other ≠ id) :
    (document.remove id).shape? other = document.shape? other :=
  Entries.find?_erase_of_ne h document.shapes

/-- A shape may go when it holds nothing and no binding involves it. -/
theorem Sound.remove (h : document.Sound) {id : String} (hchildren : document.children id = [])
    (hbindings : ∀ binding ∈ document.pageBindings, binding.connector ≠ id ∧ binding.target ≠ id) :
    (document.remove id).Sound := by
  have hkeep {other : String} {shape : Shape}
    (hother : (document.remove id).shape? other = some shape) :
      other ≠ id ∧ document.shape? other = some shape := by
    by_cases heq : other = id
    · rw [heq, shape_remove_self] at hother
      cases hother
    · exact ⟨heq, by rwa [shape_remove_of_ne document heq] at hother⟩
  constructor
  case distinct =>
    rw [plan_remove, Entries.keys_erase]
    exact h.distinct.filter _
  case named =>
    intro other station hstation
    rw [find_plan] at hstation
    obtain ⟨shape, hshape, rfl⟩ := Option.map_eq_some_iff.mp hstation
    exact h.id_eq (hkeep hshape).2
  case nested =>
    intro other parent station hstation hholds
    rw [find_plan] at hstation
    obtain ⟨shape, hshape, rfl⟩ := Option.map_eq_some_iff.mp hstation
    have hlt := h.place_lt (hkeep hshape).2 hholds
    -- The parent stays: the shape that goes holds nothing.
    have hne : parent ≠ id := by
      rintro rfl
      have hchild := h.filed.mem_children.mpr ⟨shape, (hkeep hshape).2, hholds⟩
      rw [hchildren] at hchild
      cases hchild
    simp only [place, plan_remove, Entries.keys_erase] at hlt ⊢
    exact idxOf_filter_lt (by simpa using hne) hlt
  case distinctBindings => exact h.distinctBindings
  case namedBindings => exact h.namedBindings
  case owned =>
    intro binding hbinding
    obtain ⟨station, hstation, htype⟩ := h.owned hbinding
    refine ⟨station, ?_, htype⟩
    rw [plan_remove, Entries.find?_erase_of_ne (hbindings binding hbinding).1]
    exact hstation
  case attached =>
    intro binding hbinding
    rw [plan_remove, Entries.keys_erase]
    exact List.mem_filter.mpr ⟨h.attached hbinding, by simpa using (hbindings binding hbinding).2⟩
  case typed => exact h.typed

theorem Sound.empty (style : Style) : (Document.empty style).Sound := by
  constructor <;> simp [Document.empty, plan, pageBindings, Entries.values, Entries.mapValues,
    Entries.keys]

end Document

end Canvasflow.Page
