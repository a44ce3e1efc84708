import Canvasflow.Proofs.Session.Editing
import Canvasflow.Proofs.Session.Invariants
import Canvasflow.Proofs.Session.Loading

/-!
# Restoring documents

A page that commands have built comes back when its scene is loaded on an empty page. Every shape is
accepted where it stands, since its identity is its own, its coordinates are finite, and what holds
it stands below it; and so is every binding, since it leads from a connector to a shape of the page.
That the scene itself is read back as it was written, and so is every scene that can be read, is the
other half of `saved_scene_restores`.
-/

namespace Canvasflow

open Canvasflow.Page Canvasflow.Scene

/-- A key is not among those that come before it. -/
theorem Entries.notMem_keys_of_nodup {α : Type} {below above : Entries α} {key : String} {value : α}
    (h : (keys (below ++ (key, value) :: above)).Nodup) : key ∉ keys below := by
  rw [keys, List.map_append] at h
  exact fun hkey => (List.nodup_append.mp h).2.2 key hkey key List.mem_cons_self rfl

namespace Page.Document

/-- A shape as scenes store it. -/
def storedShape (shape : Shape) : StoredShape :=
  ⟨shape.id, shape.type, shape.x, shape.y, shape.rotation,
    (shape.parent?.map Data.str).getD .null, shape.props, shape.metadata⟩

/-- A binding as scenes store it. -/
def storedBinding (binding : Binding) : StoredBinding :=
  ⟨binding.id, binding.connector, binding.target, binding.terminal, binding.type⟩

variable {page source : Document}

theorem identify_of_ne {kind id : String} (h : id ≠ "") : page.identify kind id = (id, page) := by
  have hid : id.isEmpty = false := by simpa using h
  simp [identify, hid]

theorem finite_double {name : String} {x : Float} (h : x.isFinite) :
    finite name (.double x) = .ok x := by
  simp [finite, Data.double, Number.toFloat?, h]

/-- A stored shape comes back on a page that has what holds it. -/
theorem putStored_storedShape {shape : Shape} (hid : shape.id ≠ "")
    (hfree : shape.id ∉ Entries.keys page.shapes)
    (hparent : ∀ parent, shape.parent? = some parent → parent ∈ Entries.keys page.shapes)
    (hfinite : shape.Finite) :
    page.putStored (storedShape shape) =
      .ok { page with shapes := page.shapes ++ [(shape.id, shape)] } := by
  have hchecked : page.checkFree shape.id = .ok () := by
    have hhas : Entries.has shape.id page.shapes = false := by
      rw [← Bool.not_eq_true, Entries.has_iff_mem_keys]
      exact hfree
    simp [checkFree, hhas]
  have hheld : page.checkParent ((shape.parent?.map Data.str).getD .null) = .ok shape.parent? := by
    cases hvalue : shape.parent? with
    | none => rfl
    | some parent =>
      have hhas := (Entries.has_iff_mem_keys parent page.shapes).mpr (hparent parent hvalue)
      simp [checkParent, hhas]
  have haccept : page.accept (storedShape shape).toNew shape.id = .ok shape := by
    simp only [accept, storedShape, StoredShape.toNew, hchecked, hheld, finite_double hfinite.x,
      finite_double hfinite.y, finite_double hfinite.rotation]
    rfl
  have hnamed : (storedShape shape).toNew.id = shape.id := rfl
  simp only [putStored, create, hnamed, identify_of_ne hid, haccept, put,
    Entries.set_of_not_mem hfree]

theorem Sound.notMem_below (h : source.Sound) {below above : Entries Shape} {id : String}
    {shape : Shape} (hshapes : source.shapes = below ++ (id, shape) :: above) :
    id ∉ Entries.keys below :=
  Entries.notMem_keys_of_nodup (hshapes ▸ keys_plan source ▸ h.distinct)

/-- What holds a shape stands below it. -/
theorem Sound.parent_mem_below (h : source.Sound) {below above : Entries Shape} {id : String}
    {shape : Shape} (hshapes : source.shapes = below ++ (id, shape) :: above) {parent : String}
    (hparent : shape.parent? = some parent) : parent ∈ Entries.keys below := by
  have hshape : source.shape? id = some shape :=
    Entries.find?_of_mem (keys_plan source ▸ h.distinct) (by simp [hshapes])
  have hkeys : Entries.keys source.plan = Entries.keys below ++ id :: Entries.keys above := by
    rw [keys_plan, hshapes, Entries.keys, List.map_append]
    rfl
  have hlt := h.place_lt hshape hparent
  by_contra hnot
  rw [place, place, hkeys, List.idxOf_append_of_notMem (h.notMem_below hshapes),
    List.idxOf_append_of_notMem hnot, List.idxOf_cons_self] at hlt
  omega

/-- Shapes come back in their order. -/
theorem stack_stored (hwhole : source.Whole) (hnamed : source.Named) {below above : Entries Shape}
    (hshapes : source.shapes = below ++ above) (hpage : page.shapes = below) :
    page.stack ((Entries.values above).map storedShape) =
      .ok { page with shapes := source.shapes } := by
  induction above generalizing below page with
  | nil =>
    rw [List.append_nil] at hshapes
    rw [hshapes, ← hpage]
    rfl
  | cons entry rest ih =>
    obtain ⟨id, shape⟩ := entry
    obtain ⟨hid, hne⟩ := hnamed.shapes (id, shape) (by simp [hshapes])
    dsimp only at hid hne
    subst hid
    have hsound := hwhole.toSound
    have hput : page.putStored (storedShape shape) = _ :=
      putStored_storedShape hne (hpage ▸ hsound.notMem_below hshapes)
        (fun parent hparent => hpage ▸ hsound.parent_mem_below hshapes hparent)
        (hwhole.finite (List.mem_map.mpr ⟨(shape.id, shape), by simp [hshapes], rfl⟩))
    have hrest : source.shapes = (below ++ [(shape.id, shape)]) ++ rest := by simp [hshapes]
    rw [stack, Entries.values, List.map_cons, List.map_cons, List.foldlM_cons, hput]
    exact ih hrest (by simp [hpage])

/-- A stored binding comes back on a page that has its ends, if connectors are of its type. -/
theorem bindStored_storedBinding {binding : Binding} (hid : binding.id ≠ "")
    (hfree : binding.id ∉ Entries.keys page.bindings)
    (howner : ∃ shape, page.shape? binding.connector = some shape ∧
      shape.type = page.style.connectorType)
    (htarget : (page.shape? binding.target).isSome)
    (htype : binding.type = page.style.connectorType) :
    page.bindStored (storedBinding binding) =
      .ok { page with bindings := page.bindings ++ [(binding.id, binding)] } := by
  have hends : page.checkEnds binding.connector binding.target = .ok () := by
    obtain ⟨shape, hshape, hshapeType⟩ := howner
    have hhas : Entries.has binding.target page.shapes := htarget
    simp [checkEnds, checkOwner, checkTarget, hshape, hshapeType, hhas]
    rfl
  have hhas : Entries.has binding.id page.bindings = false := by
    rw [← Bool.not_eq_true, Entries.has_iff_mem_keys]
    exact hfree
  have hsame : (⟨binding.id, binding.connector, binding.target, binding.terminal,
      page.style.connectorType⟩ : Binding) = binding := by
    rw [← htype]
  simp [bindStored, storedBinding, bind, hends, identify_of_ne hid, hhas, hsame,
    Entries.set_of_not_mem hfree]

/-- Bindings come back in their order. -/
theorem attach_stored (hsound : source.Sound) (hnamed : source.Named)
    {earlier later : Entries Binding} (hbindings : source.bindings = earlier ++ later)
    (hpage : page.bindings = earlier) (hshapes : page.shapes = source.shapes)
    (hstyle : page.style.connectorType = source.style.connectorType) :
    page.attach ((Entries.values later).map storedBinding) =
      .ok { page with bindings := source.bindings } := by
  induction later generalizing earlier page with
  | nil =>
    rw [List.append_nil] at hbindings
    rw [hbindings, ← hpage]
    rfl
  | cons entry rest ih =>
    obtain ⟨id, binding⟩ := entry
    obtain ⟨hid, hne⟩ := hnamed.bindings (id, binding) (by simp [hbindings])
    dsimp only at hid hne
    subst hid
    have hmem : binding ∈ source.pageBindings :=
      List.mem_map.mpr ⟨(binding.id, binding), by simp [hbindings], rfl⟩
    have hfree : binding.id ∉ Entries.keys page.bindings := by
      rw [hpage]
      exact Entries.notMem_keys_of_nodup (hbindings ▸ hsound.distinctBindings)
    have hfound (id : String) : page.shape? id = source.shape? id := by
      rw [shape?, shape?, hshapes]
    obtain ⟨station, hstation, hstationType⟩ := hsound.owned hmem
    obtain ⟨owner, howner, rfl⟩ := Option.map_eq_some_iff.mp (find_plan source _ ▸ hstation)
    have htarget : (page.shape? binding.target).isSome := by
      rw [hfound]
      exact (Entries.has_iff_mem_keys _ _).mpr (keys_plan source ▸ hsound.attached hmem)
    have hbind := bindStored_storedBinding hne hfree
      ⟨owner, (hfound _).trans howner, hstationType.trans hstyle.symm⟩ htarget
      ((hsound.typed hmem).trans hstyle.symm)
    have hrest : source.bindings = (earlier ++ [(binding.id, binding)]) ++ rest := by
      simp [hbindings]
    rw [attach, Entries.values, List.map_cons, List.map_cons, List.foldlM_cons, hbind]
    exact ih hrest (by simp [hpage]) hshapes hstyle

/-- A page comes back from its scene. -/
theorem takeOver_ofDocument (hwhole : source.Whole) (hnamed : source.Named) {style : Style}
    (hstyle : style.connectorType = source.style.connectorType) (now name : Data) :
    ∃ next, (Document.empty style).takeOver (.ofDocument now name source) = .ok next ∧
      next.shapes = source.shapes ∧ next.bindings = source.bindings := by
  have hstack : (empty style).stack ((Entries.values source.shapes).map storedShape) = _ :=
    stack_stored hwhole hnamed (List.nil_append _).symm rfl
  have hattach :
      ({ empty style with shapes := source.shapes } : Document).attach
        ((Entries.values source.bindings).map storedBinding) = _ :=
    attach_stored hwhole.toSound hnamed (List.nil_append _).symm rfl rfl hstyle
  exact ⟨_, bind_eq_ok_iff.mpr ⟨_, hstack, hattach⟩, rfl, rfl⟩

end Page.Document

namespace Session

/-- What is saved of a page that commands have built is read back as it was written, and gives the
page back: on an empty page with the same type of connectors it is loaded without a fault, and there
are the same shapes and the same bindings then, in the same order. And every scene that can be read
at all is read back as it was written. -/
theorem saved_scene_restores (settings settings' : Settings) {style style' : Style}
    (hstyle : style'.connectorType = style.connectorType) {now : Data} (later name : Data)
    (hnow : now.isBlank = false) {commands : List Command}
    (hcommands : ∀ command ∈ commands, command.unanswered) :
    let document := ((new settings (.empty style)).after commands).document
    let saved := (Scene.ofDocument now name document).toData
    (∃ t, (new settings' (.empty style')).perform (.load (Scene.ofData later saved)) =
        (.ok .done, t) ∧
      t.document.shapes = document.shapes ∧ t.document.bindings = document.bindings) ∧
      ∀ data scene, Scene.ofData now data = .ok scene →
        Scene.ofData later scene.toData = .ok scene := by
  intro document saved
  have hcalm : ((new settings (.empty style)).after commands).Calm :=
    unanswered_calm (new_calm settings style) hcommands
  have hnamed : document.Named := after_named (.empty style) commands
  have hsame : style'.connectorType = document.style.connectorType := by
    rw [hstyle, show document.style = style from after_style _ commands]
  refine ⟨?_, fun data scene hread => ofData_toData (dated_of_ofData hnow hread) later⟩
  obtain ⟨next, htakeOver, hshapes, hbindings⟩ :=
    Document.takeOver_ofDocument hcalm.whole hnamed hsame now name
  have hload := perform_load (s := new settings' (.empty style')) rfl
    (Scene.ofDocument now name document)
  rw [show (new settings' (.empty style')).document = .empty style' from rfl, htakeOver] at hload
  obtain ⟨t, hperform, rfl⟩ := hload
  have hsaved : Scene.ofData later saved = .ok (Scene.ofDocument now name document) :=
    ofData_toData (About.dated_complete hnow _) later
  exact ⟨t, by rw [hsaved]; exact hperform, hshapes, hbindings⟩

/-- A group with a shape in it, a connector between the two that an engine runs, and a shape that is
gone again. -/
def grouped : List Command :=
  [.engine [.change], .create { type := "frame", id := "f" },
    .create { type := "geo", id := "a", parent := .str "f", x := .int 3 },
    .connector "a" "f" "() \x7b return \x7b\x7d; \x7d" "c", .create { type := "geo", id := "b" },
    .delete "b"]

theorem grouped_restores :
    let document := ((new .defaults (.empty (styleOf .defaults))).after grouped).document
    let saved := (Scene.ofDocument (.str "now") (.str "Group") document).toData
    (∀ command ∈ grouped, command.unanswered) ∧
      ∃ t, (blank .defaults).perform (.load (Scene.ofData (.str "later") saved)) = (.ok .done, t) ∧
        Entries.keys t.document.shapes = ["f", "a", "c"] ∧
        t.document.pageBindings.map Binding.target = ["a", "f"] := by
  intro document saved
  have hgrouped : ∀ command ∈ grouped, command.unanswered := by
    simp [grouped, Command.unanswered]
  obtain ⟨⟨t, hperform, hshapes, hbindings⟩, _⟩ := saved_scene_restores .defaults .defaults rfl
    (.str "later") (.str "Group") (show (Data.str "now").isBlank = false from rfl) hgrouped
  refine ⟨hgrouped, t, hperform, ?_, ?_⟩
  · rw [hshapes]
    decide +kernel
  · rw [Document.pageBindings, hbindings]
    decide +kernel

end Session

end Canvasflow
