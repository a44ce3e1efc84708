import Canvasflow.Proofs.Page.Nesting
import Canvasflow.Proofs.Page.Plain
import Mathlib.Logic.Relation

/-!
# Whole pages

A page is `Whole` when it is sound, every marker is that of a shape on it, and coordinates are
finite. Each change of a document leaves a whole page, whether it is accepted or refused. On a whole
page no shape holds itself, not even through others (`Sound.acyclic`), and every shape has its place
on the page (`Sound.placement_isSome`). What lies within a shape is then a tree (`Treelike`), as it
may be on pages that are not sound, too.

`without` is what is left of a page when some shapes go, with their markers and with all bindings
that involve them. A page stays whole when whatever a shape holds that goes does so too
(`Whole.without`).
-/

namespace Canvasflow

namespace Entries

variable {α : Type}

/-- Values that say their keys. -/
theorem map_values {name : α → String} {entries : Entries α}
    (h : ∀ entry ∈ entries, name entry.2 = entry.1) : (values entries).map name = keys entries := by
  rw [values, keys, List.map_map]
  exact List.map_congr_left h

/-- A write adds no key but its own. -/
theorem mem_keys_of_mem_set {key other : String} {value : α} {entries : Entries α}
    (h : other ∈ keys (set key value entries)) : other = key ∨ other ∈ keys entries := by
  by_cases hmem : key ∈ keys entries
  · exact .inr (by rwa [keys_set_of_mem hmem] at h)
  · rw [set_of_not_mem hmem, keys, List.map_append, List.mem_append] at h
    simpa [keys, or_comm] using h

end Entries

namespace Page

open Canvasflow.Geometry

/-- A shape whose coordinates are finite. -/
structure Shape.Finite (shape : Shape) : Prop where
  x : shape.x.isFinite
  y : shape.y.isFinite
  rotation : shape.rotation.isFinite

namespace Document

/-- A sound page on which every marker is that of a shape and all coordinates are finite. -/
structure Whole (document : Document) : Prop extends Sound document where
  marked : Entries.keys document.markers ⊆ Entries.keys document.shapes
  finite : ∀ {shape : Shape}, shape ∈ document.pageShapes → shape.Finite

/-- The relation between a shape and what holds it. -/
def Holds (document : Document) (parent id : String) : Prop :=
  ∃ shape, document.shape? id = some shape ∧ shape.parent? = some parent

variable {document next : Document} {shape : Shape} {id root : String}

theorem mem_keys_of_shape (h : document.shape? id = some shape) :
    id ∈ Entries.keys document.shapes :=
  (Entries.has_iff_mem_keys id document.shapes).mp (Option.isSome_of_eq_some h)

theorem Sound.place_lt_of_holds (h : document.Sound) {parent : String}
    (hholds : document.Holds parent id) : document.place parent < document.place id := by
  obtain ⟨shape, hshape, hparent⟩ := hholds
  exact h.place_lt hshape hparent

/-- No shape holds itself, not even through others. -/
theorem Sound.acyclic (h : document.Sound) (id : String) :
    ¬ Relation.TransGen document.Holds id id := by
  have hlt {first last : String} (hpath : Relation.TransGen document.Holds first last) :
      document.place first < document.place last := by
    induction hpath with
    | single hholds => exact h.place_lt_of_holds hholds
    | tail _ hholds ih => exact Nat.lt_trans ih (h.place_lt_of_holds hholds)
  exact fun hcircle => Nat.lt_irrefl _ (hlt hcircle)

/-- The walk outwards ends, at a place on the page for what is there. -/
theorem Sound.placement_isSome (h : document.Sound) (id : String) :
    ∃ placement?, document.placement? id = .ok placement? ∧
      placement?.isSome = (document.shape? id).isSome := by
  have hle := document.place_le_length id
  obtain ⟨placement?, hplacement⟩ :=
    h.placementWithin_ok (show document.place id < document.shapes.length + 1 by omega)
  refine ⟨placement?, hplacement, ?_⟩
  rw [placementWithin] at hplacement
  cases hshape : document.shape? id with
  | none =>
    rw [hshape] at hplacement
    cases hplacement
    rfl
  | some shape =>
    simp only [hshape] at hplacement
    split at hplacement
    · cases hplacement
      rfl
    · obtain ⟨outer?, _, houter⟩ := bind_eq_ok_iff.mp hplacement
      cases outer? <;> cases houter <;> rfl

theorem Filed.id_of_mem (h : document.Filed) {entry : String × Shape}
    (hentry : entry ∈ document.shapes) : entry.2.id = entry.1 :=
  h.named (Entries.find?_of_mem h.distinct hentry)

theorem Filed.bindingId_of_mem (h : document.Filed) {entry : String × Binding}
    (hentry : entry ∈ document.bindings) : entry.2.id = entry.1 :=
  h.namedBindings (Entries.find?_of_mem h.distinctBindings hentry)

/-- A binding of the page is found under its identity. -/
theorem Filed.find_binding (h : document.Filed) {binding : Binding}
    (hbinding : binding ∈ document.pageBindings) :
    Entries.find? binding.id document.bindings = some binding := by
  obtain ⟨entry, hentry, rfl⟩ := List.mem_map.mp hbinding
  rw [h.bindingId_of_mem hentry]
  exact Entries.find?_of_mem h.distinctBindings hentry

theorem Filed.nodup_ids (h : document.Filed) : (document.pageShapes.map Shape.id).Nodup := by
  rw [pageShapes, Entries.map_values fun _ => h.id_of_mem]
  exact h.distinct

theorem Filed.nodup_bindingIds (h : document.Filed) :
    (document.pageBindings.map Binding.id).Nodup := by
  rw [pageBindings, Entries.map_values fun _ => h.bindingId_of_mem]
  exact h.distinctBindings

/-! ## Trees -/

theorem within_iff_reaches :
    document.Within root id ↔ Relation.ReflTransGen document.Holds root id := by
  constructor
  · intro hwithin
    induction hwithin with
    | self => exact .refl
    | child hshape hparent _ ih => exact ih.tail ⟨_, hshape, hparent⟩
  · intro hreaches
    induction hreaches with
    | refl => exact .self
    | tail _ hholds ih =>
      obtain ⟨shape, hshape, hparent⟩ := hholds
      exact .child hshape hparent ih

/-- Whether no shape within a shape holds itself, not even through others. -/
def Treelike (document : Document) (root : String) : Prop :=
  ∀ id, document.Within root id → ¬ Relation.TransGen document.Holds id id

theorem Sound.treelike (h : document.Sound) (root : String) : document.Treelike root :=
  fun id _ => h.acyclic id

/-- What a shape holds is a tree, too. -/
theorem Treelike.held (h : document.Treelike root) (hholds : document.Holds root id) :
    document.Treelike id := by
  obtain ⟨shape, hshape, hparent⟩ := hholds
  exact fun inner hinner => h inner (Within.trans (.child hshape hparent .self) hinner)

/-- A shape does not lie within what it holds. -/
theorem Treelike.not_within (h : document.Treelike root) (hholds : document.Holds root id) :
    ¬ document.Within id root :=
  fun hwithin => h root .self
    (Relation.TransGen.head' hholds (within_iff_reaches.mp hwithin))

/-- The children of a shape are different ones. -/
theorem Filed.nodup_children (h : document.Filed) (id : String) : (document.children id).Nodup :=
  h.nodup_ids.sublist (List.filter_sublist.map _)

/-- No child of a shape lies within another one. -/
theorem Treelike.children_apart (h : document.Treelike root) (hfiled : document.Filed) :
    (document.children root).Pairwise fun first second => ¬ document.Within first second := by
  refine (hfiled.nodup_children root).imp_of_mem fun hfirst hsecond hne hwithin => ?_
  cases hwithin with
  | self => exact hne rfl
  | child hshape hparent hwithin =>
    -- What the first child holds would be held by the parent of both.
    obtain ⟨shape, hshape', hparent'⟩ := hfiled.mem_children.mp hsecond
    obtain rfl := Option.some.inj (hshape.symm.trans hshape')
    obtain rfl := Option.some.inj (hparent.symm.trans hparent')
    exact h.not_within (hfiled.mem_children.mp hfirst) hwithin

/-! ## Changes -/

theorem Whole.empty (style : Style) : (Document.empty style).Whole :=
  ⟨.empty style, List.Subset.refl _, nofun⟩

/-- A page stays whole when only its count of identities changes. -/
theorem Whole.counted (h : document.Whole) (issued : Nat) :
    ({ document with issued := issued } : Document).Whole :=
  ⟨h.toSound.congr rfl rfl rfl, h.marked, h.finite⟩

theorem finite_of_accept {new : NewShape} (h : document.accept new id = .ok shape) :
    shape.Finite := by
  simp only [accept, bind_eq_ok_iff] at h
  obtain ⟨_, _, _, _, x, hx, y, hy, rotation, hrotation, hshape⟩ := h
  cases hshape
  exact ⟨isFinite_of_finite hx, isFinite_of_finite hy, isFinite_of_finite hrotation⟩

theorem finite_of_create {new : NewShape} (h : document.create new = (.ok shape, next)) :
    shape.Finite := by
  obtain ⟨name, issued, hidentify⟩ := identify_eq document "shape" new.id
  simp only [create, hidentify] at h
  split at h
  · rename_i haccept
    cases h
    exact finite_of_accept haccept
  · cases h

theorem finite_of_patched {changed : Shape} {patch : Patch} (hshape : shape.Finite)
    (h : patched shape patch = .ok changed) : changed.Finite := by
  simp only [patched, bind_eq_ok_iff] at h
  obtain ⟨_, _, x, hx, y, hy, rotation, hrotation, _, _, _, _, hchanged⟩ := h
  cases hchanged
  exact ⟨isFinite_of_patchedNumber hshape.x hx, isFinite_of_patchedNumber hshape.y hy,
    isFinite_of_patchedNumber hshape.rotation hrotation⟩

/-- An attempt to create a shape leaves a whole page. -/
theorem Whole.created (h : document.Whole) (new : NewShape) : (document.create new).2.Whole := by
  rcases hcreate : document.create new with ⟨fault | shape, next⟩
  · obtain ⟨issued, rfl⟩ := create_error hcreate
    exact h.counted issued
  · have hsound := h.toSound.create hcreate
    have hfinite := finite_of_create hcreate
    obtain ⟨_, _, issued, rfl⟩ := create_ok hcreate
    refine ⟨hsound, fun id hid => ?_, fun {other} hother => ?_⟩
    · simp only [Entries.keys, List.map_append, List.mem_append]
      exact .inl (h.marked hid)
    · simp only [pageShapes, Entries.values, List.map_append, List.mem_append] at hother
      rcases hother with hold | hnew
      · exact h.finite hold
      · rwa [List.mem_singleton.mp hnew]

/-- A patch leaves a whole page. -/
theorem Whole.update (h : document.Whole) {patch : Patch}
    (hupdate : document.update patch = .ok (shape, next)) : next.Whole := by
  have hsound := h.toSound.update hupdate
  obtain ⟨old, hold, hpatched, rfl⟩ := update_ok hupdate
  refine ⟨hsound, ?_, fun {other} hother => ?_⟩
  · rw [Entries.keys_set_of_mem (mem_keys_of_shape hold)]
    exact h.marked
  · obtain ⟨entry, hentry, rfl⟩ := List.mem_map.mp hother
    rcases Entries.mem_of_mem_set hentry with hmem | hnew
    · exact h.finite (List.mem_map_of_mem hmem)
    · rw [hnew]
      exact finite_of_patched (h.finite (h.filed.mem_of_shape hold).1) hpatched

/-- An attempt to bind leaves a whole page. -/
theorem Whole.bound (h : document.Whole) (connector target : String) (terminal : Terminal)
    (id : String) : (document.bind connector target terminal id).2.Whole := by
  rcases hbind : document.bind connector target terminal id with ⟨fault | binding, next⟩
  · obtain ⟨issued, rfl⟩ := bind_error hbind
    exact h.counted issued
  · have hsound := h.toSound.bind hbind
    obtain ⟨_, _, _, _, _, _, issued, rfl⟩ := bind_ok hbind
    exact ⟨hsound, h.marked, h.finite⟩

/-- Undoing a binding leaves a whole page. -/
theorem Whole.unbind (h : document.Whole) {binding : Binding}
    (hunbind : document.unbind id = .ok (binding, next)) : next.Whole := by
  have hsound := h.toSound.unbind hunbind
  obtain ⟨_, rfl⟩ := unbind_ok hunbind
  exact ⟨hsound, h.marked, h.finite⟩

/-- Marking a shape leaves a whole page. -/
theorem Whole.mark (h : document.Whole) (hshape : document.shape? id = some shape)
    (marker : Marker) : (document.mark id marker).Whole := by
  refine ⟨h.toSound.congr rfl rfl rfl, fun other hother => ?_, h.finite⟩
  rcases Entries.mem_keys_of_mem_set hother with rfl | hold
  · exact mem_keys_of_shape hshape
  · exact h.marked hold

/-- A shape that holds nothing and that no binding involves may go from a whole page. -/
theorem Whole.remove (h : document.Whole) (hchildren : document.children id = [])
    (hbindings : ∀ binding ∈ document.pageBindings, binding.connector ≠ id ∧ binding.target ≠ id) :
    (document.remove id).Whole := by
  refine ⟨h.toSound.remove hchildren hbindings, fun other hother => ?_, fun hshape => ?_⟩
  · simp only [Document.remove, Entries.keys_erase, List.mem_filter] at hother ⊢
    exact ⟨h.marked hother.1, hother.2⟩
  · exact h.finite (List.map_subset Prod.snd (List.filter_subset_self _) hshape)

/-! ## What is left -/

/-- A page without some shapes, their markers, and the bindings that involve them. -/
def without (document : Document) (gone : List String) : Document :=
  { document with
    shapes := document.shapes.filter fun entry => entry.1 ∉ gone
    bindings := document.bindings.filter fun entry =>
      entry.2.connector ∉ gone ∧ entry.2.target ∉ gone
    markers := document.markers.filter fun entry => entry.1 ∉ gone }

variable {gone : List String}

@[simp] theorem without_nil (document : Document) : document.without [] = document := by
  simp [without]

/-- Some shapes after others are all of them at once. -/
theorem without_without (document : Document) (first second : List String) :
    (document.without first).without second = document.without (first ++ second) := by
  simp only [without, List.filter_filter, List.mem_append, not_or, Document.mk.injEq, true_and,
    and_true]
  refine ⟨?_, ?_, ?_⟩ <;>
    exact List.filter_congr fun entry _ => by
      simp only [← Bool.decide_and, decide_eq_decide]
      tauto

theorem shape_without (document : Document) (gone : List String) (id : String) :
    (document.without gone).shape? id = if id ∈ gone then none else document.shape? id := by
  rw [shape?, without, Entries.find?_filter fun key => decide (key ∉ gone)]
  by_cases hid : id ∈ gone <;> simp [hid, shape?]

theorem shape_without_of_notMem (document : Document) (hid : id ∉ gone) :
    (document.without gone).shape? id = document.shape? id := by
  rw [shape_without, if_neg hid]

/-- What holds something on the page that is left did so before. -/
theorem holds_of_without {parent : String} (h : (document.without gone).Holds parent id) :
    id ∉ gone ∧ document.Holds parent id := by
  obtain ⟨shape, hshape, hparent⟩ := h
  rw [shape_without] at hshape
  split at hshape
  · cases hshape
  · rename_i hid
    exact ⟨hid, shape, hshape, hparent⟩

theorem within_of_without (h : (document.without gone).Within root id) :
    document.Within root id := by
  rw [within_iff_reaches] at h ⊢
  exact Relation.ReflTransGen.mono (fun _ _ hholds => (holds_of_without hholds).2) _ _ h

theorem Treelike.without (h : document.Treelike root) (gone : List String) :
    (document.without gone).Treelike root :=
  fun id hwithin hcircle => h id (within_of_without hwithin)
    (Relation.TransGen.mono (fun _ _ hholds => (holds_of_without hholds).2) _ _ hcircle)

theorem plan_without (document : Document) (gone : List String) :
    (document.without gone).plan = document.plan.filter fun entry => entry.1 ∉ gone := by
  simp [plan, without, Entries.mapValues, List.filter_map, Function.comp_def]

theorem mem_pageBindings_without {binding : Binding}
    (h : binding ∈ (document.without gone).pageBindings) :
    binding ∈ document.pageBindings ∧ binding.connector ∉ gone ∧ binding.target ∉ gone := by
  obtain ⟨entry, hentry, rfl⟩ := List.mem_map.mp h
  obtain ⟨hmem, hkept⟩ := List.mem_filter.mp hentry
  exact ⟨List.mem_map_of_mem hmem, by simpa using hkept⟩

/-- A list of shapes that has, with each of them, whatever it holds. -/
def Closed (document : Document) (gone : List String) : Prop :=
  ∀ {parent id : String}, document.Holds parent id → parent ∈ gone → id ∈ gone

/-- What lies within a shape is closed. -/
theorem closed_of_within (h : ∀ id, id ∈ gone ↔ document.Within root id) :
    document.Closed gone := by
  rintro parent id ⟨shape, hshape, hparent⟩ hgone
  exact (h id).mpr (.child hshape hparent ((h parent).mp hgone))

/-- A sound page stays so when, with a shape, everything goes that it holds. -/
theorem Sound.without (h : document.Sound) (hclosed : document.Closed gone) :
    (document.without gone).Sound := by
  have hkeys : Entries.keys (document.without gone).plan =
      (Entries.keys document.plan).filter fun key => key ∉ gone := by
    rw [plan_without]
    exact Entries.keys_filter (fun key => decide (key ∉ gone)) _
  have hfind {id : String} (hid : id ∉ gone) :
      Entries.find? id (document.without gone).plan = Entries.find? id document.plan := by
    simp only [find_plan, shape_without_of_notMem document hid]
  have hstays {id : String} {station : Station}
      (hstation : Entries.find? id (document.without gone).plan = some station) : id ∉ gone := by
    intro hid
    simp [shape_without, hid] at hstation
  constructor
  case distinct =>
    rw [hkeys]
    exact h.distinct.filter _
  case named =>
    intro id station hstation
    exact h.named (hfind (hstays hstation) ▸ hstation)
  case nested =>
    intro id parent station hstation hholds
    have hid := hstays hstation
    rw [hfind hid] at hstation
    -- What holds a shape that stays cannot have gone.
    have hparent : parent ∉ gone := by
      intro hgone
      obtain ⟨shape, hshape, rfl⟩ := Option.map_eq_some_iff.mp (find_plan document id ▸ hstation)
      exact hid (hclosed ⟨shape, hshape, hholds⟩ hgone)
    rw [place, place, hkeys]
    exact idxOf_filter_lt (by simpa using hparent) (h.nested hstation hholds)
  case distinctBindings => exact h.distinctBindings.sublist (List.filter_sublist.map _)
  case namedBindings =>
    intro id binding hbinding
    have hmem := (List.mem_filter.mp (Entries.mem_of_find? hbinding)).1
    exact h.namedBindings (Entries.find?_of_mem h.distinctBindings hmem)
  case owned =>
    intro binding hbinding
    obtain ⟨hold, hconnector, _⟩ := mem_pageBindings_without hbinding
    rw [hfind hconnector]
    exact h.owned hold
  case attached =>
    intro binding hbinding
    obtain ⟨hold, _, htarget⟩ := mem_pageBindings_without hbinding
    rw [hkeys]
    exact List.mem_filter.mpr ⟨h.attached hold, by simpa using htarget⟩
  case typed => exact fun hbinding => h.typed (mem_pageBindings_without hbinding).1

theorem Whole.without (h : document.Whole) (hclosed : document.Closed gone) :
    (document.without gone).Whole := by
  have hkeys {α : Type} (entries : Entries α) :
      Entries.keys (entries.filter fun entry => decide (entry.1 ∉ gone)) =
        (Entries.keys entries).filter fun key => key ∉ gone :=
    Entries.keys_filter (fun key => decide (key ∉ gone)) entries
  refine ⟨h.toSound.without hclosed, fun id hid => ?_, fun hshape => ?_⟩
  · simp only [Document.without, hkeys, List.mem_filter] at hid ⊢
    exact ⟨h.marked hid.1, hid.2⟩
  · exact h.finite (List.map_subset Prod.snd (List.filter_subset_self _) hshape)

/-- Where closed things are gone, what lies within a shape is gone or lies within it still. -/
theorem within_without (hclosed : document.Closed gone) :
    id ∈ gone ∨ (document.without gone).Within root id ↔
      id ∈ gone ∨ document.Within root id := by
  constructor
  · exact Or.imp_right within_of_without
  · rintro (hid | hwithin)
    · exact .inl hid
    · induction hwithin with
      | self => exact .inr .self
      | @child id parent shape hshape hparent _ ih =>
        by_cases hid : id ∈ gone
        · exact .inl hid
        · have hstays := ih.resolve_left fun hgone =>
            hid (hclosed ⟨shape, hshape, hparent⟩ hgone)
          exact .inr (.child ((shape_without_of_notMem document hid).trans hshape) hparent hstays)

theorem exists_within_without (hclosed : document.Closed gone) (roots : List String) :
    (id ∈ gone ∨ ∃ root ∈ roots, (document.without gone).Within root id) ↔
      id ∈ gone ∨ ∃ root ∈ roots, document.Within root id := by
  constructor
  · rintro (hmem | ⟨root, hroot, hmem⟩)
    · exact .inl hmem
    · exact ((within_without hclosed).mp (.inr hmem)).imp_right fun hmem => ⟨root, hroot, hmem⟩
  · rintro (hmem | ⟨root, hroot, hmem⟩)
    · exact .inl hmem
    · exact ((within_without hclosed).mpr (.inr hmem)).imp_right fun hmem => ⟨root, hroot, hmem⟩

end Document

end Page

end Canvasflow
