import Mathlib.Data.Finset.Card
import Canvasflow.Proofs.Session.Editing
import Canvasflow.Proofs.Session.Invariants

/-!
# Removal from a page that nobody watches

Where no one is told of what happens, the removal of a shape does to the page what it is asked to do
and nothing else: `delete_exact` says that what lies within the shape goes, with its markers and
every binding that involves any of it, and that the page is otherwise the same, item by item and in
order.

The page need not be one that was made undisturbed. Shapes and bindings have to be filed under their
identities, as they are after any commands (`after_filed`), and nothing within the shape may hold
itself, so that the walk inwards ends: the shapes within it are a tree (`Treelike`). How deep the
walk goes is bounded by the number of those shapes (`inside`), not by their places on the page.
-/

namespace Canvasflow.Page.Document

variable {document next : Document} {root id : String} {gone : List String}

/-! ## Filed pages -/

theorem Filed.without (h : document.Filed) (gone : List String) :
    (document.without gone).Filed where
  distinct := h.distinct.sublist (List.filter_sublist.map _)
  named {id} shape hshape := by
    rw [shape_without] at hshape
    split at hshape
    · cases hshape
    · exact h.named hshape
  distinctBindings := h.distinctBindings.sublist (List.filter_sublist.map _)
  namedBindings hbinding := h.bindingId_of_mem
    (List.mem_filter.mp (Entries.mem_of_find? hbinding)).1

theorem Filed.empty (style : Style) : (Document.empty style).Filed :=
  (Sound.empty style).filed

/-- Every change of a page stores at most one item, under a key that is new or was its own. -/
theorem Filed.edit (h : document.Filed) (hnamed : next.Named) (hedit : document.Edit next) :
    next.Filed := by
  have hkeys : (Entries.keys next.shapes).Nodup ∧ (Entries.keys next.bindings).Nodup := by
    cases hedit with
    | created new =>
      rcases hcreate : document.create new with ⟨fault | shape, made⟩
      · obtain ⟨_, rfl⟩ := create_error hcreate
        exact ⟨h.distinct, h.distinctBindings⟩
      · obtain ⟨hnew, _, _, rfl⟩ := create_ok hcreate
        refine ⟨?_, h.distinctBindings⟩
        have hkey : shape.id ∉ Entries.keys document.shapes := by
          rw [← Entries.has_iff_mem_keys, Entries.has]
          simpa [shape?] using hnew
        rw [← Entries.set_of_not_mem hkey]
        exact Entries.nodup_keys_set h.distinct _ _
    | updated hupdate =>
      obtain ⟨_, _, _, rfl⟩ := update_ok hupdate
      exact ⟨Entries.nodup_keys_set h.distinct _ _, h.distinctBindings⟩
    | bound connector target terminal id =>
      rcases hbind : document.bind connector target terminal id with ⟨fault | binding, made⟩
      · obtain ⟨_, rfl⟩ := bind_error hbind
        exact ⟨h.distinct, h.distinctBindings⟩
      · obtain ⟨hnew, _, _, _, _, _, _, rfl⟩ := bind_ok hbind
        refine ⟨h.distinct, ?_⟩
        rw [← Entries.set_of_not_mem hnew]
        exact Entries.nodup_keys_set h.distinctBindings _ _
    | unbound hunbind =>
      obtain ⟨_, rfl⟩ := unbind_ok hunbind
      exact ⟨h.distinct, Entries.nodup_keys_erase h.distinctBindings _⟩
    | removed id => exact ⟨Entries.nodup_keys_erase h.distinct id, h.distinctBindings⟩
    | marked | looked | pointed => exact ⟨h.distinct, h.distinctBindings⟩
  exact ⟨hkeys.1, hnamed.find_shape, hkeys.2, fun hbinding =>
    (hnamed.bindings _ (Entries.mem_of_find? hbinding)).1⟩

/-! ## How much lies within -/

open Classical in
/-- The shapes of the page that lie within a shape. -/
noncomputable def inside (document : Document) (root : String) : Finset String :=
  (Entries.keys document.shapes).toFinset.filter (document.Within root)

theorem mem_inside :
    id ∈ document.inside root ↔ (document.shape? id).isSome ∧ document.Within root id := by
  classical
  rw [inside, Finset.mem_filter, List.mem_toFinset, ← Entries.has_iff_mem_keys]
  rfl

theorem card_inside_le_length (document : Document) (root : String) :
    (document.inside root).card ≤ document.shapes.length := by
  classical
  refine (Finset.card_filter_le _ _).trans ((List.toFinset_card_le _).trans ?_)
  rw [Entries.keys, List.length_map]

/-- Less lies within what a shape holds than within the shape. -/
theorem Treelike.inside_ssubset (h : document.Treelike root)
    (hpresent : (document.shape? root).isSome) (hholds : document.Holds root id) :
    document.inside id ⊂ document.inside root := by
  refine Finset.ssubset_iff_of_subset (fun inner hinner => ?_) |>.mpr
    ⟨root, mem_inside.mpr ⟨hpresent, .self⟩, fun hmem => h.not_within hholds (mem_inside.mp hmem).2⟩
  obtain ⟨hsome, hwithin⟩ := mem_inside.mp hinner
  obtain ⟨shape, hshape, hparent⟩ := hholds
  exact mem_inside.mpr ⟨hsome, Within.trans (.child hshape hparent .self) hwithin⟩

theorem inside_without_subset (document : Document) (gone : List String) (root : String) :
    (document.without gone).inside root ⊆ document.inside root := by
  intro id hid
  obtain ⟨hsome, hwithin⟩ := mem_inside.mp hid
  refine mem_inside.mpr ⟨?_, within_of_without hwithin⟩
  rw [shape_without] at hsome
  split at hsome
  · cases hsome
  · exact hsome

end Canvasflow.Page.Document

namespace Canvasflow.Session

open Canvasflow.Connector Canvasflow.Page

/-- An act that succeeds where nobody watches, and leaves nobody watching and a given page. -/
def Act.Leaves (act : Act Unit) (s : Session) (document : Document) : Prop :=
  ∃ t : Session, act.run s = (.ok (), t) ∧ t.subscribers = [] ∧ t.document = document

/-- An act that succeeds where nobody watches, and takes exactly some shapes off the page. -/
def Act.Takes (act : Act Unit) (s : Session) (inside : String → Prop) : Prop :=
  ∃ gone, (∀ id, id ∈ gone ↔ inside id) ∧ act.Leaves s (s.document.without gone)

variable (span limit : Nat) {s t : Session} {id : String}

/-- Storing a page is seen by nobody. -/
theorem store_leaves (hunheard : s.subscribers = []) (document : Document) (notice : Notice) :
    (store (notifyWithin span limit) document notice).Leaves s document := by
  have hstored : (s.withDocument document).subscribers = [] := hunheard
  refine ⟨(s.withDocument document).recordNotice notice, ?_,
    (subscribers_recordNotice _ _).trans hstored, document_recordNotice _ _⟩
  rw [store, Act.run_change, notifyWithin_unheard hstored]

/-! ## Bindings -/

theorem deleteBinding_leaves (hunheard : s.subscribers = []) {binding : Binding}
    (hbinding : Entries.find? id s.document.bindings = some binding) :
    (deleteBinding (notifyWithin span limit) id).Leaves s
      { s.document with bindings := Entries.erase id s.document.bindings } := by
  obtain ⟨t, hrun, ht⟩ := store_leaves span limit hunheard
    { s.document with bindings := Entries.erase id s.document.bindings } (.unbound binding)
  refine ⟨t, ?_, ht⟩
  simp only [deleteBinding, Act.run_bind, Act.run_get, Act.run_ofPage, Document.unbind, hbinding]
  exact hrun

/-- Bindings are undone one after another. -/
theorem forM_deleteBinding_leaves {bindings : List Binding} (hunheard : s.subscribers = [])
    (hdistinct : (bindings.map Binding.id).Nodup)
    (hpresent : ∀ binding ∈ bindings,
      Entries.find? binding.id s.document.bindings = some binding) :
    (bindings.forM fun binding => deleteBinding (notifyWithin span limit) binding.id).Leaves s
      { s.document with
        bindings := s.document.bindings.filter fun entry =>
          entry.1 ∉ bindings.map Binding.id } := by
  induction bindings generalizing s with
  | nil => exact ⟨s, rfl, hunheard, by simp⟩
  | cons binding rest ih =>
    obtain ⟨hfresh, hdistinct⟩ := List.nodup_cons.mp hdistinct
    obtain ⟨t, hrun, ht, hdocument⟩ := deleteBinding_leaves span limit hunheard
      (hpresent binding List.mem_cons_self)
    obtain ⟨u, hrest, hu, hleft⟩ := ih ht hdistinct fun other hother => by
      have hne : other.id ≠ binding.id :=
        fun heq => hfresh (heq ▸ List.mem_map_of_mem hother)
      rw [hdocument, Entries.find?_erase_of_ne hne]
      exact hpresent other (List.mem_cons_of_mem _ hother)
    refine ⟨u, ?_, hu, ?_⟩
    · rw [Act.run_forM_cons, hrun]
      exact hrest
    · have hfilter : (Entries.erase binding.id s.document.bindings).filter
          (fun entry => decide (entry.1 ∉ rest.map Binding.id)) =
          s.document.bindings.filter
            fun entry => decide (entry.1 ∉ (binding :: rest).map Binding.id) := by
        rw [Entries.erase, List.filter_filter]
        refine List.filter_congr fun entry _ => ?_
        simp only [List.map_cons, List.mem_cons, not_or, Bool.decide_and, Bool.and_comm]
      rw [hleft, hdocument, ← hfilter]

theorem loosen_leaves (hunheard : s.subscribers = []) (hfiled : s.document.Filed) (id : String) :
    (loosen (notifyWithin span limit) id).Leaves s (s.document.loosened id) := by
  have hdistinct : ((involving id s.document.pageBindings).map Binding.id).Nodup :=
    hfiled.nodup_bindingIds.sublist (List.filter_sublist.map _)
  have hundone := forM_deleteBinding_leaves span limit hunheard hdistinct
    fun binding hbinding => hfiled.find_binding (List.mem_of_mem_filter hbinding)
  rw [hfiled.filter_involving id] at hundone
  exact hundone

/-! ## Shapes -/

theorem takeOff_leaves (hunheard : s.subscribers = []) (hpresent : (s.document.shape? id).isSome)
    (shape : Shape) :
    (takeOff (notifyWithin span limit) id shape).Leaves s (s.document.remove id) := by
  obtain ⟨t, hrun, ht⟩ := store_leaves span limit hunheard
    (s.document.remove id) (.deleted shape)
  refine ⟨t, ?_, ht⟩
  simp only [takeOff, Act.run_bind, Act.run_get]
  rw [if_neg (by simpa [Option.isSome_iff_ne_none] using hpresent)]
  exact hrun

/-- Shapes that lie apart from one another are taken off one after another. -/
theorem forM_takes {act : String → Act Unit} {children : List String}
    (hunheard : s.subscribers = [])
    (hpresent : ∀ child ∈ children, (s.document.shape? child).isSome)
    (hapart : children.Pairwise fun first second => ¬ s.document.Within first second)
    (hact : ∀ child ∈ children, ∀ (t : Session) (gone : List String), t.subscribers = [] →
      t.document = s.document.without gone → (t.document.shape? child).isSome →
        (act child).Takes t (t.document.Within child)) :
    (children.forM act).Takes s fun id => ∃ child ∈ children, s.document.Within child id := by
  induction children generalizing s with
  | nil => exact ⟨[], by simp, s, rfl, hunheard, (Document.without_nil _).symm⟩
  | cons child rest ih =>
    obtain ⟨hfirst, hapart⟩ := List.pairwise_cons.mp hapart
    obtain ⟨gone, hgone, t, hrun, ht, hdocument⟩ := hact child List.mem_cons_self s [] hunheard
      (Document.without_nil _).symm (hpresent child List.mem_cons_self)
    -- The other children are still there, and lie apart still.
    have hlater : ∀ other ∈ rest, other ∉ gone := fun other hother hmem =>
      hfirst other hother ((hgone other).mp hmem)
    obtain ⟨others, hothers, u, hrest, hu, hleft⟩ := ih ht
      (fun other hother => by
        rw [hdocument, Document.shape_without_of_notMem _ (hlater other hother)]
        exact hpresent other (List.mem_cons_of_mem _ hother))
      (hapart.imp fun hnot hinner =>
        hnot (Document.within_of_without (hdocument ▸ hinner)))
      fun other hother v more hv hmore => hact other (List.mem_cons_of_mem _ hother) v
        (gone ++ more) hv (by rw [hmore, hdocument, Document.without_without])
    refine ⟨gone ++ others, fun id => ?_, u, (Act.run_forM_cons_of_ok hrun rest).trans hrest, hu,
      by rw [hleft, hdocument, Document.without_without]⟩
    simp only [List.mem_append, hothers, List.exists_mem_cons_iff, ← hgone, hdocument]
    exact Document.exists_within_without (Document.closed_of_within hgone) rest

/-- The removal of a shape, to a depth that is at least the number of shapes within it, takes off
exactly what lies within it. -/
theorem deleteShape_takes {depth : Nat} (hunheard : s.subscribers = []) (hfiled : s.document.Filed)
    (htree : s.document.Treelike id) (hpresent : (s.document.shape? id).isSome)
    (hdepth : (s.document.inside id).card ≤ depth) :
    (deleteShape (notifyWithin span limit) depth id).Takes s (s.document.Within id) := by
  induction depth generalizing s id with
  | zero =>
    have hempty : s.document.inside id = ∅ := Finset.card_eq_zero.mp (Nat.le_zero.mp hdepth)
    have hself : id ∈ s.document.inside id := Document.mem_inside.mpr ⟨hpresent, .self⟩
    rw [hempty] at hself
    cases hself
  | succ depth ih =>
    obtain ⟨shape, hshape⟩ := Option.isSome_iff_exists.mp hpresent
    -- What is inside goes first. Nothing is put on the page meanwhile, so the depth stays enough.
    obtain ⟨gone, hgone, t, hrun, ht, hdocument⟩ := forM_takes hunheard
      (fun child hchild => by
        obtain ⟨inner, hinner, _⟩ := hfiled.mem_children.mp hchild
        rw [hinner]
        rfl)
      (htree.children_apart hfiled)
      fun child hchild u more hu hmore hleft => by
        have hholds := hfiled.mem_children.mp hchild
        have hfewer : (u.document.inside child).card ≤ (s.document.inside child).card :=
          Finset.card_le_card (hmore ▸ Document.inside_without_subset s.document more child)
        have hless := Finset.card_lt_card (htree.inside_ssubset hpresent hholds)
        exact ih hu (hmore ▸ hfiled.without more) (hmore ▸ (htree.held hholds).without more) hleft
          (by omega)
    obtain ⟨u, hloosen, hu, hloose⟩ := loosen_leaves span limit ht
      (hdocument ▸ hfiled.without gone) id
    -- The shape itself does not lie within its children.
    have hstays : (u.document.shape? id).isSome := by
      have hid : id ∉ gone := by
        rw [hgone]
        rintro ⟨child, hchild, hwithin⟩
        exact htree.not_within (hfiled.mem_children.mp hchild) hwithin
      have hkept : u.document.shape? id = t.document.shape? id := by
        rw [hloose]
        rfl
      rw [hkept, hdocument, Document.shape_without_of_notMem _ hid]
      exact hpresent
    obtain ⟨v, htake, hv, htaken⟩ := takeOff_leaves span limit hu hstays shape
    refine ⟨gone ++ [id], fun other => ?_, v, ?_, hv, ?_⟩
    · rw [hfiled.within_iff, List.mem_append, List.mem_singleton, hgone, or_comm]
    · simp only [deleteShape, Act.run_bind, Act.run_get, hshape, hrun, hloosen]
      exact htake
    · rw [htaken, hloose, Document.remove_loosened, hdocument, Document.without_without]

/-- Whatever is done, shapes and bindings are stored once each, under their own identities. -/
theorem after_filed (hs : s.document.Named ∧ s.document.Filed) (commands : List Command) :
    (s.after commands).document.Filed := by
  refine (Moves.keeps (P := fun t => t.document.Named ∧ t.document.Filed) (fun ht hmove => ?_)
    (after_moves s commands) hs).2
  cases hmove with
  | edited h => exact ⟨ht.1.edit h, ht.2.edit (ht.1.edit h) h⟩
  | _ => exact ht

/-- Where nobody watches, the deletion of a shape succeeds, and takes the shapes within it off the
page, with their markers and all bindings that involve them. The other shapes, bindings and markers
stay as they are and where they are, and so does everything else about the page. -/
theorem delete_exact (s : Session) (hunheard : s.subscribers = []) (hfiled : s.document.Filed)
    {id : String} (htree : s.document.Treelike id) (hpresent : (s.document.shape? id).isSome) :
    ∃ (gone : List String) (t : Session), (∀ other, other ∈ gone ↔ s.document.Within id other) ∧
      s.perform (.delete id) = (.ok .done, t) ∧
      t.document = { s.document with
        shapes := s.document.shapes.filter fun entry => entry.1 ∉ gone
        bindings := s.document.bindings.filter fun entry =>
          entry.2.connector ∉ gone ∧ entry.2.target ∉ gone
        markers := s.document.markers.filter fun entry => entry.1 ∉ gone } := by
  have hroom := length_shapes_lt_room s (.delete id)
  have hfew := s.document.card_inside_le_length id
  obtain ⟨gone, hgone, t, hrun, _, hdocument⟩ := deleteShape_takes (s.room (.delete id))
    (s.room (.delete id)) hunheard hfiled htree hpresent (hfew.trans hroom.le)
  refine ⟨gone, t, hgone, ?_, hdocument⟩
  simp only [perform, carryOut, Act.run_bind, hrun]
  rfl

/-- A frame with a shape that holds another one and a connector. The connector leads from the inner
shape back to itself, one connector comes from outside, and another one is bound to that one. -/
def thicket : List Command :=
  [.create { type := "frame", id := "f" },
    .create { type := "geo", id := "a", parent := .str "f" },
    .create { type := "geo", id := "b" },
    .create { type := "geo", id := "d", parent := .str "a" },
    .create { type := "arrow", id := "loop", parent := .str "a" },
    .connect "loop" "d" "d",
    .connector "b" "d" "" "c",
    .connector "c" "b" "" "e",
    .mark "loop" .ok,
    .mark "e" .error]

theorem thicket_delete :
    let s := (blank .defaults).after thicket
    s.subscribers = [] ∧ s.document.Filed ∧ s.document.Treelike "f" ∧
      (s.document.shape? "f").isSome ∧
      (∃ (gone : List String) (t : Session), (∀ other, other ∈ gone ↔ s.document.Within "f" other) ∧
        s.perform (.delete "f") = (.ok .done, t) ∧
        t.document = { s.document with
          shapes := s.document.shapes.filter fun entry => entry.1 ∉ gone
          bindings := s.document.bindings.filter fun entry =>
            entry.2.connector ∉ gone ∧ entry.2.target ∉ gone
          markers := s.document.markers.filter fun entry => entry.1 ∉ gone }) ∧
      let left := (s.perform (.delete "f")).2.document
      Entries.keys left.shapes = ["b", "c", "e"] ∧
        left.pageBindings.map (fun binding => (binding.connector, binding.target)) =
          [("c", "b"), ("e", "c"), ("e", "b")] ∧ Entries.keys left.markers = ["e"] := by
  intro s
  have hcommands : ∀ command ∈ thicket, command.edits := by
    simp [thicket, Command.edits]
  have hunheard : s.subscribers = [] := by decide +kernel
  have hfiled : s.document.Filed := after_filed ⟨.empty _, .empty _⟩ thicket
  have htree : s.document.Treelike "f" :=
    (after_calm (blank_calm .defaults) hcommands).whole.treelike "f"
  have hpresent : (s.document.shape? "f").isSome := by decide +kernel
  exact ⟨hunheard, hfiled, htree, hpresent, delete_exact s hunheard hfiled htree hpresent,
    by decide +kernel, by decide +kernel, by decide +kernel⟩

end Canvasflow.Session
