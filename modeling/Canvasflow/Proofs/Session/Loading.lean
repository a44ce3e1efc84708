import Canvasflow.Proofs.Page.Plan
import Canvasflow.Proofs.Scene.Reading
import Canvasflow.Proofs.Session.Act

/-!
# Loading scenes

What becomes of a page on which a scene is loaded, where no one is told of it: its shapes are put on
the page one after another, and then its bindings. Whatever the page refuses is reported as a defect
of the scene, but for one thing: a parent that is a list or a record is no name that could be looked
up (`Misparented`). With what is known of data that is read, `scene_faults` says for all data and
scenes what is reported and what is not.
-/

namespace Canvasflow

/-- Whether a value is a list or a record, under which nothing can be looked up. -/
def Data.isBranch : Data → Bool
  | list _ | record _ => true
  | _ => false

namespace Page.Document

open Canvasflow.Scene

/-- The page with a stored shape put on it, if it takes it. -/
def putStored (document : Document) (shape : StoredShape) : Except PageFault Document :=
  match document.create shape.toNew with
  | (.ok _, next) => .ok next
  | (.error fault, _) => .error fault

/-- The page with a stored binding made on it, if it takes it. -/
def bindStored (document : Document) (binding : StoredBinding) : Except PageFault Document :=
  match document.bind binding.connector binding.target binding.terminal binding.id with
  | (.ok _, next) => .ok next
  | (.error fault, _) => .error fault

/-- The page with shapes put on it one after another, if it takes them all. -/
def stack (document : Document) (shapes : List StoredShape) : Except PageFault Document :=
  shapes.foldlM putStored document

/-- The page with bindings made on it one after another, if it takes them all. -/
def attach (document : Document) (bindings : List StoredBinding) : Except PageFault Document :=
  bindings.foldlM bindStored document

/-- The page with a scene on it, if it takes everything. -/
def takeOver (document : Document) (scene : Scene) : Except PageFault Document := do
  (← document.stack scene.shapes).attach scene.bindings

/-- Whether the first shape that a page does not take is one whose parent is a list or a record. -/
def Misparented (document : Document) (shapes : List StoredShape) : Prop :=
  ∃ before shape after page, shapes = before ++ shape :: after ∧ document.stack before = .ok page ∧
    page.shape? (page.identify "shape" shape.id).1 = none ∧ shape.parent.isBranch

variable {document : Document}

/-- A double may not be finite, but it is never too large. -/
theorem finite_double_fails (name : String) (x : Float) :
    FailsAs (fun fault => fault.isUnusable = false) (finite name (.double x)) := by
  simp only [finite, Data.double, Number.toFloat?]
  split
  · exact .ok _
  · exact FailsAs.error_iff.mpr rfl

theorem checkFree_fails (document : Document) (id : String) :
    FailsAs (fun fault => fault.isUnusable = false) (document.checkFree id) := by
  unfold checkFree
  split
  · exact FailsAs.error_iff.mpr rfl
  · exact .ok _

/-- Whether a fault, if it is not one of the page, lies in a parent that cannot be looked up. -/
def BlamesParent (parent : Data) (fault : PageFault) : Prop :=
  fault.isUnusable → fault = .parentNotName ∧ parent.isBranch

theorem BlamesParent.of_usable {parent : Data} {fault : PageFault}
    (h : fault.isUnusable = false) : BlamesParent parent fault :=
  fun hunusable => absurd hunusable (by simp [h])

theorem checkParent_fails (document : Document) (parent : Data) :
    FailsAs (BlamesParent parent) (document.checkParent parent) := by
  unfold checkParent
  split
  · exact .ok _
  · split
    · exact .ok _
    · exact FailsAs.error_iff.mpr (.of_usable rfl)
  · exact FailsAs.error_iff.mpr fun _ => ⟨rfl, rfl⟩
  · exact FailsAs.error_iff.mpr fun _ => ⟨rfl, rfl⟩
  · exact FailsAs.error_iff.mpr (.of_usable rfl)
  · exact FailsAs.error_iff.mpr (.of_usable rfl)

/-- A stored shape is only refused as unusable for its parent. -/
theorem accept_fails (document : Document) (shape : StoredShape) (id : String) :
    FailsAs (BlamesParent shape.parent) (document.accept shape.toNew id) := by
  have hfinite (name : String) (x : Float) :
      FailsAs (BlamesParent shape.parent) (finite name (.double x)) :=
    (finite_double_fails name x).mono fun _ => .of_usable
  exact .bind ((checkFree_fails document id).mono fun _ => .of_usable) fun _ =>
    .bind (checkParent_fails document _) fun _ => .bind (hfinite _ _) fun _ =>
      .bind (hfinite _ _) fun _ => .bind (hfinite _ _) fun _ => .ok _

theorem accept_parentNotName_iff {shape : StoredShape} {id : String} :
    document.accept shape.toNew id = .error .parentNotName ↔
      document.shape? id = none ∧ shape.parent.isBranch := by
  constructor
  · intro haccept
    refine ⟨?_, (document.accept_fails shape id _ haccept rfl).2⟩
    by_contra hfree
    have htaken : document.checkFree id = .error (.shapeExists id) := by
      have hhas : Entries.has id document.shapes := Option.isSome_iff_ne_none.mpr hfree
      rw [checkFree, if_pos hhas]
    rw [accept, htaken] at haccept
    cases haccept
  · rintro ⟨hfree, hparent⟩
    have hchecked : document.checkFree id = .ok () := by
      have hhas : Entries.has id document.shapes = false := by
        rw [Entries.has, show Entries.find? id document.shapes = none from hfree]
        rfl
      simp [checkFree, hhas]
    have hnone : document.checkParent shape.parent = .error .parentNotName := by
      cases hvalue : shape.parent with
      | list | record => rfl
      | _ => simp [hvalue, Data.isBranch] at hparent
    rw [accept, hchecked]
    exact bind_eq_error_iff.mpr (.inr ⟨(), rfl, bind_eq_error_iff.mpr (.inl hnone)⟩)

/-- What is put on a page is accepted under the identity that it gets. -/
theorem putStored_eq_error_iff {shape : StoredShape} {fault : PageFault} :
    document.putStored shape = .error fault ↔
      (document.identify "shape" shape.id).2.accept shape.toNew
        (document.identify "shape" shape.id).1 = .error fault := by
  have hid : shape.toNew.id = shape.id := rfl
  simp only [putStored, create, hid]
  cases (document.identify "shape" shape.id).2.accept shape.toNew
    (document.identify "shape" shape.id).1 <;> simp

theorem putStored_parentNotName_iff {shape : StoredShape} :
    document.putStored shape = .error .parentNotName ↔
      document.shape? (document.identify "shape" shape.id).1 = none ∧ shape.parent.isBranch := by
  rw [putStored_eq_error_iff, accept_parentNotName_iff]
  obtain ⟨id, issued, hidentify⟩ := identify_eq document "shape" shape.id
  rw [hidentify]
  rfl

theorem putStored_fails (document : Document) (shape : StoredShape) :
    FailsAs (BlamesParent shape.parent) (document.putStored shape) :=
  fun fault hput => accept_fails _ shape _ fault (putStored_eq_error_iff.mp hput)

theorem misparented_cons {shape : StoredShape} {rest : List StoredShape} :
    document.Misparented (shape :: rest) ↔
      document.putStored shape = .error .parentNotName ∨
        ∃ next, document.putStored shape = .ok next ∧ next.Misparented rest := by
  rw [putStored_parentNotName_iff]
  constructor
  · rintro ⟨before, item, after, page, hitems, hstack, hbad⟩
    cases before with
    | nil =>
      cases hitems
      cases hstack
      exact .inl hbad
    | cons first before =>
      cases hitems
      obtain ⟨next, hput, hstack⟩ := bind_eq_ok_iff.mp (List.foldlM_cons.symm.trans hstack)
      exact .inr ⟨next, hput, before, item, after, page, rfl, hstack, hbad⟩
  · rintro (hbad | ⟨next, hput, before, item, after, page, rfl, hstack, hbad⟩)
    · exact ⟨[], shape, rest, document, rfl, rfl, hbad⟩
    · exact ⟨shape :: before, item, after, page, rfl,
        List.foldlM_cons.trans (bind_eq_ok_iff.mpr ⟨next, hput, hstack⟩), hbad⟩

/-- Shapes are refused as unusable when the first that is refused has no usable parent. -/
theorem stack_parentNotName_iff {shapes : List StoredShape} :
    document.stack shapes = .error .parentNotName ↔ document.Misparented shapes := by
  induction shapes generalizing document with
  | nil => simp [stack, Misparented, pure, Except.pure]
  | cons shape rest ih =>
    rw [misparented_cons, stack, List.foldlM_cons, bind_eq_error_iff]
    exact or_congr_right (exists_congr fun next => and_congr_right fun _ => ih)

/-- A binding is not refused as unusable. -/
theorem bind_fails (document : Document) (connector target : String) (terminal : Terminal)
    (id : String) :
    FailsAs (fun fault => fault.isUnusable = false)
      (document.bind connector target terminal id).1 := by
  have hends : FailsAs (fun fault => fault.isUnusable = false)
      (document.checkEnds connector target) := by
    refine .bind ?_ fun _ => ?_
    · unfold checkOwner
      split
      · exact FailsAs.error_iff.mpr rfl
      · split
        · exact .ok _
        · exact FailsAs.error_iff.mpr rfl
    · unfold checkTarget
      split
      · exact .ok _
      · exact FailsAs.error_iff.mpr rfl
  unfold bind
  split
  · rename_i fault hfault
    exact FailsAs.error_iff.mpr (hends fault hfault)
  · dsimp only
    split
    · exact FailsAs.error_iff.mpr rfl
    · exact .ok _

theorem bindStored_fails (document : Document) (binding : StoredBinding) :
    FailsAs (fun fault => fault.isUnusable = false) (document.bindStored binding) := by
  have hbound := document.bind_fails binding.connector binding.target binding.terminal binding.id
  unfold bindStored
  split
  · exact .ok _
  · rename_i hbind
    rw [hbind] at hbound
    exact FailsAs.error_iff.mpr (hbound _ rfl)

/-- A scene is refused as unusable when the first shape that is refused has no usable parent. -/
theorem takeOver_parentNotName_iff {scene : Scene} :
    document.takeOver scene = .error .parentNotName ↔ document.Misparented scene.shapes := by
  rw [← stack_parentNotName_iff, takeOver, bind_eq_error_iff]
  refine or_iff_left ?_
  rintro ⟨page, _, hattach⟩
  exact nomatch FailsAs.foldlM bindStored_fails scene.bindings page _ hattach

/-- A scene is refused as unusable only for the parent of one of its shapes. -/
theorem takeOver_fails (document : Document) (scene : Scene) :
    FailsAs (fun fault => fault.isUnusable → fault = .parentNotName)
      (document.takeOver scene) := by
  refine .bind (.foldlM (fun page shape => ?_) scene.shapes document) fun page => ?_
  · exact (putStored_fails page shape).mono fun _ hblames hunusable => (hblames hunusable).1
  · exact (FailsAs.foldlM bindStored_fails scene.bindings page).mono fun _ husable hunusable =>
      absurd hunusable (by simp [husable])

end Page.Document

namespace Session

open Canvasflow.Page Canvasflow.Scene

/-! ## Loading where no one is told -/

/-- The end of an act in a session in which no one is told of anything: the page that is to come of
it, or the fault for which there is none. -/
def Ends (ending : Except Fault Unit × Session) (result : Except PageFault Document) : Prop :=
  ending.2.subscribers = [] ∧
    match result with
    | .ok document => ending.1 = .ok () ∧ ending.2.document = document
    | .error fault => ending.1 = .error (.page fault)

variable {s : Session} {span depth : Nat}

/-- An act goes on with the page that the act before it left. -/
theorem Ends.bind {first rest : Act Unit} {result : Except PageFault Document}
    {step : Document → Except PageFault Document} (hfirst : Ends (first.run s) result)
    (hrest : ∀ t : Session, t.subscribers = [] → Ends (rest.run t) (step t.document)) :
    Ends ((first >>= fun _ => rest).run s) (result >>= step) := by
  rw [Act.run_bind]
  generalize first.run s = ending at hfirst ⊢
  obtain ⟨outcome, t⟩ := ending
  obtain ⟨hunheard, hend⟩ := hfirst
  cases result with
  | error fault =>
    obtain rfl : outcome = .error (.page fault) := hend
    exact ⟨hunheard, rfl⟩
  | ok document =>
    obtain ⟨rfl, rfl⟩ : outcome = .ok () ∧ t.document = document := hend
    exact hrest t hunheard

/-- One act after another ends with the page that one step after another gives. -/
theorem forM_ends {α : Type} {act : α → Act Unit} {step : Document → α → Except PageFault Document}
    (hact : ∀ (a : α) (s : Session), s.subscribers = [] → Ends ((act a).run s) (step s.document a))
    (h : s.subscribers = []) (items : List α) :
    Ends ((items.forM act).run s) (items.foldlM step s.document) := by
  induction items generalizing s with
  | nil => exact ⟨h, rfl, rfl⟩
  | cons a rest ih =>
    rw [List.foldlM_cons]
    exact (hact a s h).bind fun _ hunheard => ih hunheard

/-- A page that no one is told of stays as it was stored. -/
theorem told_ends (h : s.subscribers = []) (notice : Notice) (document : Document) :
    Ends (.ok (), notifyWithin span depth notice (s.withDocument document)) (.ok document) := by
  have hstored : (s.withDocument document).subscribers = [] := h
  rw [notifyWithin_unheard hstored]
  exact ⟨(subscribers_recordNotice _ _).trans h, rfl, document_recordNotice _ _⟩

theorem createShape_ends (h : s.subscribers = []) (shape : StoredShape) :
    Ends ((createShape (notifyWithin span depth) shape.toNew >>= fun _ => pure ()).run s)
      (s.document.putStored shape) := by
  rw [Act.run_bind, run_createShape]
  unfold Document.putStored
  rcases s.document.create shape.toNew with ⟨fault | created, next⟩
  · exact ⟨h, rfl⟩
  · exact told_ends h (.created created) next

theorem createBinding_ends (h : s.subscribers = []) (binding : StoredBinding) :
    Ends ((createBinding (notifyWithin span depth) binding.connector binding.target
      binding.terminal binding.id >>= fun _ => pure ()).run s) (s.document.bindStored binding) := by
  rw [Act.run_bind, run_createBinding]
  unfold Document.bindStored
  rcases s.document.bind binding.connector binding.target binding.terminal binding.id with
    ⟨fault | bound, next⟩
  · exact ⟨h, rfl⟩
  · exact told_ends h (.bound bound) next

/-- Faults are translated at the end of an act. -/
theorem Ends.adapt {act : Act Unit} {result : Except PageFault Document}
    {translate : Fault → Fault} :
    Ends (act.run s) result →
      match result with
      | .ok document =>
        ∃ t, (ExceptT.adapt translate act).run s = (.ok (), t) ∧ t.document = document
      | .error fault =>
        ((ExceptT.adapt translate act).run s).1 = .error (translate (.page fault)) := by
  have hadapted : (ExceptT.adapt translate act).run s =
      ((act.run s).1.mapError translate, (act.run s).2) := rfl
  rw [hadapted]
  generalize act.run s = ending
  obtain ⟨outcome, t⟩ := ending
  rintro ⟨_, hend⟩
  cases result with
  | error fault =>
    obtain rfl : outcome = .error (.page fault) := hend
    rfl
  | ok document =>
    obtain ⟨rfl, hdocument⟩ : outcome = .ok () ∧ t.document = document := hend
    exact ⟨t, rfl, hdocument⟩

theorem applyScene_ends (span depth : Nat) (h : s.subscribers = []) (scene : Scene) :
    match s.document.takeOver scene with
    | .ok document => ∃ t, (applyScene (notifyWithin span depth) scene).run s = (.ok (), t) ∧
        t.document = document
    | .error fault => ((applyScene (notifyWithin span depth) scene).run s).1 =
        .error (asDefect (.page fault)) :=
  have hshapes := forM_ends (fun shape _ h => createShape_ends h shape) h scene.shapes
  Ends.adapt (hshapes.bind fun _ hunheard =>
    forM_ends (fun binding _ h => createBinding_ends h binding) hunheard scene.bindings)

/-- What comes of loading a scene where no one is told. -/
theorem perform_load (h : s.subscribers = []) (scene : Scene) :
    match s.document.takeOver scene with
    | .ok document => ∃ t, s.perform (.load (.ok scene)) = (.ok .done, t) ∧ t.document = document
    | .error fault => (s.perform (.load (.ok scene))).1 = .error (asDefect (.page fault)) := by
  have happly := applyScene_ends (s.room (.load (.ok scene))) (s.room (.load (.ok scene))) h scene
  have hperform : s.perform (.load (.ok scene)) =
      (applyScene (notifyWithin (s.room (.load (.ok scene))) (s.room (.load (.ok scene)))) scene >>=
        fun _ => pure .done).run s := rfl
  rw [hperform, Act.run_bind]
  generalize (applyScene _ scene).run s = ending at happly ⊢
  obtain ⟨outcome, t⟩ := ending
  cases htakeOver : s.document.takeOver scene with
  | error fault =>
    rw [htakeOver] at happly
    obtain rfl : outcome = .error (asDefect (.page fault)) := happly
    rfl
  | ok document =>
    rw [htakeOver] at happly
    obtain ⟨u, hrun, hdocument⟩ := happly
    cases hrun
    exact ⟨t, rfl, hdocument⟩

/-- What is reported of data that is no scene, and of a scene that an empty page does not take, and
what is not. -/
theorem scene_faults (now data : Data) :
    (Scene.ofData now data = .error .metadataNotRecord ↔ Misdescribed data) ∧
      (Scene.ofData now data = .error .tooLarge ↔ Overflowing data) ∧
      (¬ Misdescribed data → ¬ Overflowing data → (∃ scene, Scene.ofData now data = .ok scene) ∨
        ∃ defect, Scene.ofData now data = .error (.invalid defect)) ∧
      ∀ scene, Scene.ofData now data = .ok scene → ∀ (settings : Settings) (style : Style),
        let page := Document.empty style
        let outcome := ((new settings page).perform (.load (.ok scene))).1
        (page.Misparented scene.shapes → outcome = .error (.page .parentNotName)) ∧
          (¬ page.Misparented scene.shapes → outcome = .ok .done ∨
            ∃ defect, outcome = .error (.scene (.invalid defect))) := by
  refine ⟨ofData_metadataNotRecord_iff, ofData_tooLarge_iff, fun hdescribed hfitting => ?_,
    fun scene _ settings style => ?_⟩
  · rcases hread : Scene.ofData now data with (defect | _ | _) | scene
    · exact .inr ⟨defect, rfl⟩
    · exact absurd (ofData_tooLarge_iff.mp hread) hfitting
    · exact absurd (ofData_metadataNotRecord_iff.mp hread) hdescribed
    · exact .inl ⟨scene, rfl⟩
  · intro page outcome
    have hload := perform_load (s := new settings page) rfl scene
    have hdocument : (new settings page).document = page := rfl
    rw [hdocument] at hload
    constructor
    · intro hmisparented
      rw [Document.takeOver_parentNotName_iff.mpr hmisparented] at hload
      exact hload
    · intro hparented
      cases htakeOver : page.takeOver scene with
      | ok document =>
        rw [htakeOver] at hload
        obtain ⟨t, hperform, _⟩ := hload
        exact .inl (congrArg Prod.fst hperform)
      | error fault =>
        rw [htakeOver] at hload
        have husable : fault.isUnusable = false := by
          by_contra hunusable
          rw [Bool.not_eq_false] at hunusable
          obtain rfl := page.takeOver_fails scene fault htakeOver hunusable
          exact hparented (Document.takeOver_parentNotName_iff.mp htakeOver)
        refine .inr ⟨.page fault, hload.trans ?_⟩
        simp [asDefect, husable]

theorem nameless_parent_escapes :
    let page := Document.empty (styleOf .defaults)
    let now := Data.str "now"
    let huge : Data := .int (10 ^ 400)
    let entry (name : String) (value : Data) : Data :=
      .record [("shapes", .list [.record [("id", .str "a"), ("type", .str "geo"), (name, value)]])]
    Scene.ofData now (.record [("metadata", .list [])]) = .error .metadataNotRecord ∧
      Scene.ofData now (entry "x" huge) = .error .tooLarge ∧
      ∃ scene, Scene.ofData now (entry "parent_id" (.list [])) = .ok scene ∧
        ((new .defaults page).perform (.load (.ok scene))).1 = .error (.page .parentNotName) := by
  intro page now huge entry
  refine ⟨(scene_faults now _).1.mpr ?_, (scene_faults now _).2.1.mpr ?_, ?_⟩
  · exact ⟨_, [], [], rfl, ⟨rfl, rfl⟩, nofun⟩
  · refine ⟨_, _, [], rfl, ⟨rfl, rfl⟩, ⟨[], rfl⟩, [], _, [], rfl, nofun, _, rfl, ?_⟩
    exact ⟨rfl, rfl, ⟨[], rfl⟩, ⟨[], rfl⟩, [], "x", ["y", "rotation"], rfl, nofun, 10 ^ 400, rfl,
      by decide +kernel⟩
  · refine ⟨_, rfl, ((scene_faults now (entry "parent_id" (.list []))).2.2.2 _ rfl .defaults
      (styleOf .defaults)).1 ?_⟩
    exact ⟨[], _, [], page, rfl, rfl, rfl, rfl⟩

end Session

end Canvasflow
