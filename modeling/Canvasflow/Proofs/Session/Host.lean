import Canvasflow.Proofs.Session.Notices

/-!
# Commands of a host

What holds through the commands with which a host edits a page and passes on what its users do.
Such a command stores changes of the document, and tells of every one. `Hosted` is what is left of
a session then; for each kind of command, what is assumed of the changes that it stores carries
over to the command as a whole, under two ways of telling at once. The removal of a shape with
everything inside it goes from the innermost shapes outwards, and `deleteShape_hosted` shows that
nothing is left inside a shape or bound to it by the time it is taken off the page.
-/

namespace Canvasflow.Page.Document

/-- A page on which something of another one was taken off. -/
structure Fewer (before after : Document) : Prop where
  plan : after.plan.Sublist before.plan
  bindings : after.bindings.Sublist before.bindings

variable {document next last : Document}

namespace Fewer

@[refl] theorem refl (document : Document) : Fewer document document :=
  ⟨.refl _, .refl _⟩

theorem trans (hfirst : Fewer document next) (hrest : Fewer next last) : Fewer document last :=
  ⟨hrest.plan.trans hfirst.plan, hrest.bindings.trans hfirst.bindings⟩

theorem of_eq (hplan : next.plan = document.plan) (hbindings : next.bindings = document.bindings) :
    Fewer document next :=
  ⟨hplan ▸ .refl _, hbindings ▸ .refl _⟩

/-- What is on the page was on it before, at the same station. -/
theorem shape (h : Fewer document next) (hsound : document.Sound) {id : String} {shape : Shape}
    (hshape : next.shape? id = some shape) :
    ∃ old, document.shape? id = some old ∧ old.station = shape.station := by
  have hfound : Entries.find? id next.plan = some shape.station := by simp [hshape]
  have hmem := h.plan.subset (Entries.mem_of_find? hfound)
  have hold := Entries.find?_of_mem hsound.distinct hmem
  rw [find_plan] at hold
  exact Option.map_eq_some_iff.mp hold

theorem shape_eq_none (h : Fewer document next) (hsound : document.Sound) {id : String}
    (hgone : document.shape? id = none) : next.shape? id = none := by
  cases hshape : next.shape? id with
  | none => rfl
  | some shape =>
    obtain ⟨old, hold, _⟩ := h.shape hsound hshape
    rw [hgone] at hold
    cases hold

/-- A shape holds no more than it did. -/
theorem children (h : Fewer document next) (hsound : document.Sound) (hnext : next.Sound)
    {id parent : String} (hchild : id ∈ next.children parent) : id ∈ document.children parent := by
  obtain ⟨shape, hshape, hparent⟩ := hnext.filed.mem_children.mp hchild
  obtain ⟨old, hold, hstation⟩ := h.shape hsound hshape
  exact hsound.filed.mem_children.mpr ⟨old, hold, (congrArg Station.parent? hstation).trans hparent⟩

theorem pageBindings (h : Fewer document next) {binding : Binding}
    (hbinding : binding ∈ next.pageBindings) : binding ∈ document.pageBindings :=
  (h.bindings.map Prod.snd).subset hbinding

theorem length_le (h : Fewer document next) : next.shapes.length ≤ document.shapes.length := by
  simpa only [length_plan] using h.plan.length_le

/-- Taking entries off a list does not put more of them behind an entry than there were. -/
theorem length_sub_idxOf_le {first rest : List String} (h : rest.Sublist first) (id : String) :
    rest.length - rest.idxOf id ≤ first.length - first.idxOf id := by
  induction h with
  | slnil => exact Nat.le_refl _
  | @cons rest first other h ih =>
    have hle := h.length_le
    by_cases heq : other = id
    · simp only [heq, List.idxOf_cons_self, List.length_cons]
      omega
    · rw [List.idxOf_cons_ne _ heq, List.length_cons]
      omega
  | @cons_cons rest first other h ih =>
    have hle := h.length_le
    by_cases heq : other = id
    · simp only [heq, List.idxOf_cons_self, List.length_cons]
      omega
    · rw [List.idxOf_cons_ne _ heq, List.idxOf_cons_ne _ heq, List.length_cons, List.length_cons]
      omega

/-- No more shapes stand from one onwards than there were. -/
theorem above_le (h : Fewer document next) (id : String) :
    next.shapes.length - next.place id ≤ document.shapes.length - document.place id := by
  have hle := length_sub_idxOf_le (h.plan.map Prod.fst) id
  simpa [place, Entries.keys] using hle

end Fewer

theorem fewer_unbind {id : String} {binding : Binding}
    (h : document.unbind id = .ok (binding, next)) : Fewer document next := by
  obtain ⟨_, rfl⟩ := unbind_ok h
  exact ⟨.refl _, List.filter_sublist⟩

theorem fewer_remove (document : Document) (id : String) : Fewer document (document.remove id) :=
  ⟨by rw [plan_remove]; exact List.filter_sublist, .refl _⟩

theorem Sound.counted (h : document.Sound) (issued : Nat) :
    ({ document with issued := issued } : Document).Sound :=
  h.congr rfl rfl rfl

/-- A binding that was undone is not on the page. -/
theorem not_mem_unbind (hsound : document.Sound) {binding undone : Binding}
    (h : document.unbind binding.id = .ok (undone, next)) : binding ∉ next.pageBindings := by
  obtain ⟨_, rfl⟩ := unbind_ok h
  intro hmem
  obtain ⟨⟨key, _⟩, hentry, rfl⟩ := List.mem_map.mp hmem
  obtain ⟨hold, hne⟩ := List.mem_filter.mp hentry
  have hkey := hsound.namedBindings (Entries.find?_of_mem hsound.distinctBindings hold)
  simp [hkey] at hne

end Canvasflow.Page.Document

namespace Canvasflow.Session

open Canvasflow.Connector Canvasflow.Geometry Canvasflow.Page Canvasflow.Propagation

/-- What a command of a host leaves of a session. -/
structure Hosted (number : Nat) (Q : Session → Prop) (s t : Session) : Prop where
  fit : Fit number t
  steady : Steady number s t
  good : Q t

/-- A notice that two ways of telling hand out alike, and that keeps the session and a property. -/
structure Told (number : Nat) (Q : Session → Prop) (first second : Notify) (notice : Notice)
    (s : Session) : Prop where
  same : second notice s = first notice s
  kept : Kept number s (first notice s)
  good : Q (first notice s)

/-- Two acts of a host that are the same on fit sessions with a property, and leave fit sessions
with another one. -/
def HostTwin {α : Type} (number : Nat) (P Q : Session → Prop) (first second : Act α) : Prop :=
  ∀ s : Session, Fit number s → P s →
    second.run s = first.run s ∧ Hosted number Q s (first.run s).2

variable {number : Nat} {P Q : Session → Prop} {first second : Notify} {s t u : Session}

namespace Hosted

theorem refl (hfit : Fit number s) (hgood : Q s) : Hosted number Q s s :=
  ⟨hfit, .refl number s, hgood⟩

theorem trans (hst : Hosted number P s t) (htu : Hosted number Q t u) : Hosted number Q s u :=
  ⟨htu.fit, hst.steady.trans htu.steady, htu.good⟩

end Hosted

/-- A sound document that is stored leaves a fit session. -/
theorem Fit.withDocument (hfit : Fit number s) {document : Document} (hsound : document.Sound)
    (hstyle : document.style = s.document.style) : Fit number (s.withDocument document) :=
  (Steady.withDocument s hstyle).fit hfit hsound

/-- A change of the document that was stored and told. -/
theorem Told.hosted {notice : Notice} {document : Document}
    (h : Told number Q first second notice (s.withDocument document)) (hfit : Fit number s)
    (hsound : document.Sound) (hstyle : document.style = s.document.style) :
    Hosted number Q s (first notice (s.withDocument document)) :=
  ⟨h.kept.fit (hfit.withDocument hsound hstyle),
    (Steady.withDocument s hstyle).trans h.kept.toSteady, h.good⟩

/-- A change of the document that nobody is told of. -/
theorem Hosted.withDocument (hfit : Fit number s) {document : Document} (hsound : document.Sound)
    (hstyle : document.style = s.document.style) (hgood : Q (s.withDocument document)) :
    Hosted number Q s (s.withDocument document) :=
  ⟨hfit.withDocument hsound hstyle, .withDocument s hstyle, hgood⟩

namespace HostTwin

variable {α β : Type}

/-- One after the other, where the first one may fail. -/
theorem bind {f g : Act α} {f' g' : α → Act β} (hfirst : HostTwin number P Q f g)
    (hrest : ∀ a, HostTwin number Q Q (f' a) (g' a)) :
    HostTwin number P Q (f >>= f') (g >>= g') := by
  intro s hfit hP
  obtain ⟨hsame, hhosted⟩ := hfirst s hfit hP
  rw [Act.run_bind, Act.run_bind, hsame]
  rcases hrun : f.run s with ⟨fault | a, t⟩ <;> rw [hrun] at hhosted
  · exact ⟨rfl, hhosted⟩
  · obtain ⟨hsame', hhosted'⟩ := hrest a t hhosted.fit hhosted.good
    exact ⟨hsame', hhosted.trans hhosted'⟩

theorem done (a : α) : HostTwin number Q Q (pure a) (pure a) :=
  fun _ hfit hQ => ⟨rfl, .refl hfit hQ⟩

end HostTwin

/-! ## Growth -/

/-- What is assumed of the creation of shapes: a refused one may still have used up an identity. -/
structure Creates (number : Nat) (first second : Notify) (P Q : Session → Prop) : Prop where
  stays : ∀ {s : Session}, Fit number s → P s → Q s
  counted : ∀ {s : Session} (issued : Nat), Fit number s → P s →
    Q (s.withDocument { s.document with issued := issued })
  created : ∀ {s : Session} {new : NewShape} {shape : Shape} {document : Document},
    Fit number s → P s → s.document.create new = (.ok shape, document) →
      Told number Q first second (.created shape) (s.withDocument document)

/-- What is assumed of new bindings. -/
structure Binds (number : Nat) (first second : Notify) (Q : Session → Prop) : Prop where
  counted : ∀ {s : Session} (issued : Nat), Fit number s → Q s →
    Q (s.withDocument { s.document with issued := issued })
  bound : ∀ {s : Session} {connector target id : String} {terminal : Terminal} {binding : Binding}
    {document : Document}, Fit number s → Q s →
      s.document.bind connector target terminal id = (.ok binding, document) →
        Told number Q first second (.bound binding) (s.withDocument document)

theorem createShape_hosted (h : Creates number first second P Q) (new : NewShape) :
    HostTwin number P Q (createShape first new) (createShape second new) := by
  intro s hfit hP
  rw [run_createShape, run_createShape]
  rcases hcreate : s.document.create new with ⟨fault | shape, document⟩
  · obtain ⟨issued, rfl⟩ := Document.create_error hcreate
    exact ⟨rfl, .withDocument hfit (hfit.sound.counted issued) rfl (h.counted issued hfit hP)⟩
  · have htold := h.created hfit hP hcreate
    have hsound := hfit.sound.create hcreate
    obtain ⟨_, _, issued, rfl⟩ := Document.create_ok hcreate
    exact ⟨by simp only [htold.same], htold.hosted hfit hsound rfl⟩

theorem createBinding_hosted (h : Binds number first second Q) (connector target : String)
    (terminal : Terminal) (id : String) :
    HostTwin number Q Q (createBinding first connector target terminal id)
      (createBinding second connector target terminal id) := by
  intro s hfit hQ
  rw [run_createBinding, run_createBinding]
  rcases hbind : s.document.bind connector target terminal id with ⟨fault | binding, document⟩
  · obtain ⟨issued, rfl⟩ := Document.bind_error hbind
    exact ⟨rfl, .withDocument hfit (hfit.sound.counted issued) rfl (h.counted issued hfit hQ)⟩
  · have htold := h.bound hfit hQ hbind
    have hsound := hfit.sound.bind hbind
    obtain ⟨_, _, _, _, _, _, issued, rfl⟩ := Document.bind_ok hbind
    exact ⟨by simp only [htold.same], htold.hosted hfit hsound rfl⟩

theorem connect_hosted (h : Binds number first second Q) (connector source target : String) :
    HostTwin number Q Q (connect first connector source target)
      (connect second connector source target) :=
  (createBinding_hosted h connector source .start "").bind fun _ =>
    (createBinding_hosted h connector target .finish "").bind fun _ => .done _

theorem createConnector_hosted (hcreates : Creates number first second P Q)
    (hbinds : Binds number first second Q) (source target text id : String) :
    HostTwin number P Q (createConnector first source target text id)
      (createConnector second source target text id) := by
  intro s hfit hP
  simp only [createConnector, Act.run_bind, Act.run_get]
  cases s.document.shape? source with
  | none => exact ⟨rfl, .refl hfit (hcreates.stays hfit hP)⟩
  | some start =>
    exact ((createShape_hosted hcreates _).bind fun shape =>
      (connect_hosted hbinds shape.id source target).bind fun _ => .done shape) s hfit hP

/-! ## Changes -/

/-- What is assumed of patches. -/
def Updates (number : Nat) (first second : Notify) (P Q : Session → Prop) : Prop :=
  ∀ {s : Session} {patch : Patch} {shape : Shape} {document : Document}, Fit number s → P s →
    s.document.update patch = .ok (shape, document) →
      Told number Q first second (.changed shape) (s.withDocument document)

theorem updateShape_hosted (hupdates : Updates number first second P Q)
    (hstays : ∀ {s : Session}, Fit number s → P s → Q s) (patch : Patch) :
    HostTwin number P Q (updateShape first patch) (updateShape second patch) := by
  intro s hfit hP
  rw [run_updateShape, run_updateShape]
  cases hupdate : s.document.update patch with
  | error fault => exact ⟨rfl, .refl hfit (hstays hfit hP)⟩
  | ok pair =>
    obtain ⟨shape, document⟩ := pair
    have htold := hupdates hfit hP hupdate
    have hsound := hfit.sound.update hupdate
    obtain ⟨_, _, _, rfl⟩ := Document.update_ok hupdate
    exact ⟨by simp only [htold.same], htold.hosted hfit hsound rfl⟩

theorem setMarker_hosted (hupdates : Updates number first second Q Q)
    (hmarked : ∀ {s : Session} (id : String) (marker : Marker), Fit number s → Q s →
      Q (s.withDocument (s.document.mark id marker))) (id : String) (marker : Marker) :
    HostTwin number Q Q (setMarker first id marker) (setMarker second id marker) := by
  intro s hfit hQ
  simp only [setMarker, Act.run_bind, Act.run_get]
  cases s.document.shape? id with
  | none => exact ⟨rfl, .refl hfit hQ⟩
  | some shape =>
    have hmark : Hosted number Q s (s.withDocument (s.document.mark id marker)) :=
      .withDocument hfit (hfit.sound.congr rfl rfl rfl) rfl (hmarked id marker hfit hQ)
    simp only [Act.run_bind, Act.run_change]
    cases s.document.recoloring? shape marker with
    | none => exact ⟨rfl, hmark⟩
    | some patch =>
      obtain ⟨hsame, hhosted⟩ := ((updateShape_hosted hupdates (fun _ hQ => hQ) patch).bind fun _ =>
        .done ()) _ hmark.fit hmark.good
      exact ⟨hsame, hmark.trans hhosted⟩

/-! ## Removal -/

/-- What is assumed of what is taken off the page: bindings, and shapes that hold nothing and that
no binding involves. The notice of a removal shows a shape of the same station, perhaps an earlier
one. -/
structure Removes (number : Nat) (first second : Notify) (Q : Session → Prop) : Prop where
  unbound : ∀ {s : Session} {id : String} {binding : Binding} {document : Document},
    Fit number s → Q s → s.document.unbind id = .ok (binding, document) →
      Told number Q first second (.unbound binding) (s.withDocument document)
  removed : ∀ {s : Session} {id : String} {shape now : Shape}, Fit number s → Q s →
    s.document.shape? id = some now → now.station = shape.station → s.document.children id = [] →
      (∀ binding ∈ s.document.pageBindings, binding.connector ≠ id ∧ binding.target ≠ id) →
        Told number Q first second (.deleted shape) (s.withDocument (s.document.remove id))

/-- What is left of a session from which something was taken off the page. -/
structure Emptied (number : Nat) (Q : Session → Prop) (s t : Session) : Prop
    extends Hosted number Q s t where
  fewer : s.document.Fewer t.document

theorem Emptied.refl (hfit : Fit number s) (hgood : Q s) : Emptied number Q s s :=
  ⟨.refl hfit hgood, .refl _⟩

theorem Emptied.trans (hst : Emptied number Q s t) (htu : Emptied number Q t u) :
    Emptied number Q s u :=
  ⟨hst.toHosted.trans htu.toHosted, hst.fewer.trans htu.fewer⟩

/-- What was stored and told took something off the page. -/
theorem Told.emptied {notice : Notice} {document : Document}
    (h : Told number Q first second notice (s.withDocument document)) (hfit : Fit number s)
    (hsound : document.Sound) (hstyle : document.style = s.document.style)
    (hfewer : s.document.Fewer document) :
    Emptied number Q s (first notice (s.withDocument document)) :=
  ⟨h.hosted hfit hsound hstyle, hfewer.trans (.of_eq h.kept.plan h.kept.bindings)⟩

theorem deleteBinding_emptied (h : Removes number first second Q) (hfit : Fit number s) (hQ : Q s)
    (id : String) :
    (deleteBinding second id).run s = (deleteBinding first id).run s ∧
      Emptied number Q s ((deleteBinding first id).run s).2 := by
  rw [run_deleteBinding, run_deleteBinding]
  cases hunbind : s.document.unbind id with
  | error fault => exact ⟨rfl, .refl hfit hQ⟩
  | ok pair =>
    obtain ⟨binding, document⟩ := pair
    have htold := h.unbound hfit hQ hunbind
    have hsound := hfit.sound.unbind hunbind
    have hfewer := Document.fewer_unbind hunbind
    obtain ⟨_, rfl⟩ := Document.unbind_ok hunbind
    exact ⟨by simp only [htold.same], htold.emptied hfit hsound rfl hfewer⟩

/-- A binding that was taken off is not on the page. -/
theorem not_mem_deleteBinding (h : Removes number first second Q) (hfit : Fit number s) (hQ : Q s)
    {binding : Binding} {t : Session}
    (hrun : (deleteBinding first binding.id).run s = (.ok (), t)) :
    binding ∉ t.document.pageBindings := by
  rw [run_deleteBinding] at hrun
  cases hunbind : s.document.unbind binding.id with
  | error fault =>
    rw [hunbind] at hrun
    cases hrun
  | ok pair =>
    obtain ⟨undone, document⟩ := pair
    have hkept := (h.unbound hfit hQ hunbind).kept
    rw [hunbind] at hrun
    cases hrun
    rw [Document.pageBindings, hkept.bindings]
    exact Document.not_mem_unbind hfit.sound hunbind

/-- What is left when the things of a list are taken off one after another, and that they stay
gone. -/
theorem forM_emptied {α : Type} {f g : α → Act Unit} (gone : α → Session → Prop) (list : List α)
    (hgone : ∀ {a : α} {t u : Session}, Fit number t → gone a t →
      t.document.Fewer u.document → gone a u)
    (hfit : Fit number s) (hQ : Q s)
    (htake : ∀ a ∈ list, ∀ t : Session, Fit number t → Q t → s.document.Fewer t.document →
      (g a).run t = (f a).run t ∧ Emptied number Q t ((f a).run t).2 ∧
        ∀ u, (f a).run t = (.ok (), u) → gone a u) :
    (list.forM g).run s = (list.forM f).run s ∧ Emptied number Q s ((list.forM f).run s).2 ∧
      ∀ t, (list.forM f).run s = (.ok (), t) → ∀ a ∈ list, gone a t := by
  induction list generalizing s with
  | nil => exact ⟨rfl, .refl hfit hQ, by simp⟩
  | cons a rest ih =>
    obtain ⟨hsame, hemptied, htaken⟩ := htake a List.mem_cons_self s hfit hQ (.refl _)
    rcases hrun : (f a).run s with ⟨fault | _, t⟩ <;> rw [hrun] at hsame hemptied htaken
    · rw [Act.run_forM_cons_of_error hrun, Act.run_forM_cons_of_error hsame]
      exact ⟨rfl, hemptied, nofun⟩
    · rw [Act.run_forM_cons_of_ok hrun, Act.run_forM_cons_of_ok hsame]
      obtain ⟨hrest, hemptied', hlater⟩ := ih hemptied.fit hemptied.good
        fun b hb u hfitU hQU hfewer => htake b (List.mem_cons_of_mem a hb) u hfitU hQU
          (hemptied.fewer.trans hfewer)
      refine ⟨hrest, hemptied.trans hemptied', fun u hu b hb => ?_⟩
      rcases List.mem_cons.mp hb with rfl | hmem
      · rw [hu] at hemptied'
        exact hgone hemptied.fit (htaken t rfl) hemptied'.fewer
      · exact hlater u hu b hmem

theorem loosen_emptied (h : Removes number first second Q) (id : String) (hfit : Fit number s)
    (hQ : Q s) :
    (loosen second id).run s = (loosen first id).run s ∧
      Emptied number Q s ((loosen first id).run s).2 ∧
        ∀ t, (loosen first id).run s = (.ok (), t) →
          ∀ binding ∈ t.document.pageBindings, binding.connector ≠ id ∧ binding.target ≠ id := by
  obtain ⟨hsame, hemptied, hgone⟩ := forM_emptied
    (f := fun binding => deleteBinding first binding.id)
    (g := fun binding => deleteBinding second binding.id)
    (fun binding t => binding ∉ t.document.pageBindings) (involving id s.document.pageBindings)
    (fun _ hgone hfewer hmem => hgone (hfewer.pageBindings hmem)) hfit hQ
    fun binding _ t hfitT hQT _ => by
      obtain ⟨hsame, hemptied⟩ := deleteBinding_emptied h hfitT hQT binding.id
      exact ⟨hsame, hemptied, fun u hrun => not_mem_deleteBinding h hfitT hQT hrun⟩
  simp only [loosen, Act.run_bind, Act.run_get]
  refine ⟨hsame, hemptied, fun t hrun binding hbinding => ?_⟩
  rw [hrun] at hemptied
  have hfree : binding ∉ involving id s.document.pageBindings :=
    fun hmem => hgone t hrun binding hmem hbinding
  simpa [involving, hemptied.fewer.pageBindings hbinding] using hfree

theorem takeOff_emptied (h : Removes number first second Q) {id : String} {shape : Shape}
    (hfit : Fit number s) (hQ : Q s)
    (hstation : ∀ now, s.document.shape? id = some now → now.station = shape.station)
    (hchildren : s.document.children id = [])
    (hbindings : ∀ binding ∈ s.document.pageBindings,
      binding.connector ≠ id ∧ binding.target ≠ id) :
    (takeOff second id shape).run s = (takeOff first id shape).run s ∧
      Emptied number Q s ((takeOff first id shape).run s).2 ∧
        ∀ t, (takeOff first id shape).run s = (.ok (), t) → t.document.shape? id = none := by
  simp only [takeOff, Act.run_bind, Act.run_get]
  cases hnow : s.document.shape? id with
  | none => exact ⟨rfl, .refl hfit hQ, nofun⟩
  | some now =>
    have htold := h.removed hfit hQ hnow (hstation now hnow) hchildren hbindings
    have hsound := hfit.sound.remove hchildren hbindings
    have hgone : (first (.deleted shape)
        (s.withDocument (s.document.remove id))).document.shape? id = none :=
      (Document.Fewer.of_eq htold.kept.plan htold.kept.bindings).shape_eq_none hsound
        (Document.shape_remove_self _ id)
    simp only [store, Act.run_change, Option.isNone_some, Bool.false_eq_true, if_false, htold.same,
      true_and]
    refine ⟨htold.emptied hfit hsound rfl (Document.fewer_remove _ id), fun t ht => ?_⟩
    cases ht
    exact hgone

/-- A shape is removed with everything inside it and all bindings that involve these: the same to
two depths that exceed the number of shapes from it onwards. Where the removal succeeds the shape
is gone. -/
theorem deleteShape_emptied (h : Removes number first second Q) {depth other : Nat} {id : String}
    (hfit : Fit number s) (hQ : Q s)
    (hdepth : s.document.shapes.length - s.document.place id < depth)
    (hother : s.document.shapes.length - s.document.place id < other) :
    (deleteShape second other id).run s = (deleteShape first depth id).run s ∧
      Emptied number Q s ((deleteShape first depth id).run s).2 ∧
        ∀ t, (deleteShape first depth id).run s = (.ok (), t) → t.document.shape? id = none := by
  induction depth generalizing other s id with
  | zero => omega
  | succ depth ih =>
    obtain ⟨other, rfl⟩ : ∃ rest, other = rest + 1 := ⟨other - 1, by omega⟩
    simp only [deleteShape, Act.run_bind, Act.run_get]
    cases hshape : s.document.shape? id with
    | none => exact ⟨rfl, .refl hfit hQ, nofun⟩
    | some shape =>
      -- What is inside goes first. Nothing is put on the page meanwhile, so the depth stays enough.
      obtain ⟨hsame, hinner, hempty⟩ := forM_emptied (f := deleteShape first depth)
        (g := deleteShape second other) (fun child t => t.document.shape? child = none)
        (s.document.children id)
        (fun hfitT hgone hfewer => hfewer.shape_eq_none hfitT.sound hgone) hfit hQ
        fun child hchild t hfitT hQT hfewer => by
          obtain ⟨hlt, hlength⟩ := hfit.sound.place_lt_of_mem_children hchild
          have hle := hfewer.above_le child
          have hdepth' : t.document.shapes.length - t.document.place child < depth := by omega
          have hother' : t.document.shapes.length - t.document.place child < other := by omega
          exact ih hfitT hQT hdepth' hother'
      simp only [Act.run_bind, Act.run_get, hsame]
      rcases hrun : ((s.document.children id).forM (deleteShape first depth)).run s with
        ⟨fault | _, t⟩ <;> rw [hrun] at hinner hempty
      · exact ⟨rfl, hinner, nofun⟩
      · obtain ⟨hsame', hfree, hloose⟩ := loosen_emptied h id hinner.fit hinner.good
        simp only [hsame']
        rcases hrun' : (loosen first id).run t with ⟨fault | _, u⟩ <;> rw [hrun'] at hfree hloose
        · exact ⟨rfl, hinner.trans hfree, nofun⟩
        · have hreached := hinner.trans hfree
          -- Cascades may have changed the shape in the meantime, but not its station.
          have hstation : ∀ now, u.document.shape? id = some now → now.station = shape.station := by
            intro now hnow
            obtain ⟨old, hold, heq⟩ := hreached.fewer.shape hfit.sound hnow
            rw [← heq, Option.some.inj (hshape.symm.trans hold)]
          -- A child that is left would be one that was there at first, and those are gone.
          have hchildren : u.document.children id = [] := by
            refine List.eq_nil_iff_forall_not_mem.mpr fun child hchild => ?_
            have hgone := hempty t rfl child
              (hreached.fewer.children hfit.sound hreached.fit.sound hchild)
            obtain ⟨_, hsome, _⟩ := hreached.fit.sound.filed.mem_children.mp hchild
            rw [hfree.fewer.shape_eq_none hinner.fit.sound hgone] at hsome
            cases hsome
          obtain ⟨hsame'', htaken, hgone⟩ := takeOff_emptied h hreached.fit hreached.good hstation
            hchildren (hloose u rfl)
          exact ⟨hsame'', hreached.trans htaken, hgone⟩

theorem deleteShape_hosted (h : Removes number first second Q) {depth other : Nat}
    (hdepth : ∀ {s : Session}, Q s → s.document.shapes.length < depth)
    (hother : ∀ {s : Session}, Q s → s.document.shapes.length < other) (id : String) :
    HostTwin number Q Q (deleteShape first depth id) (deleteShape second other id) := by
  intro s hfit hQ
  obtain ⟨hsame, hemptied, _⟩ := deleteShape_emptied h hfit hQ
    (Nat.lt_of_le_of_lt (Nat.sub_le _ (s.document.place id)) (hdepth hQ))
    (Nat.lt_of_le_of_lt (Nat.sub_le _ (s.document.place id)) (hother hQ))
  exact ⟨hsame, hemptied.toHosted⟩

/-! ## Events -/

/-- What is assumed of the events that are passed on. -/
structure Passes (number : Nat) (first second : Notify) (Q : Session → Prop) : Prop where
  looked : ∀ {s : Session} (viewport? : Option (Box Float)), Fit number s → Q s →
    Q (s.withDocument { s.document with viewport? := viewport? })
  pointed : ∀ {s : Session} (event : InputEvent) (pointer : Point Float), Fit number s → Q s →
    Told number Q first second (.input event)
      (s.withDocument { s.document with pointer := pointer })
  passed : ∀ {s : Session} (now : Float), Fit number s → Q s →
    Told number Q first second .frame { s with clock := now }

theorem takeInput_hosted (h : Passes number first second Q) (event : InputEvent) :
    HostTwin number Q Q (takeInput first event) (takeInput second event) := by
  intro s hfit hQ
  have htold := h.pointed event (event.point?.getD s.document.pointer) hfit hQ
  simp only [takeInput, Act.run_change, htold.same, true_and]
  exact htold.hosted hfit (hfit.sound.congr rfl rfl rfl) rfl

theorem passFrame_hosted (h : Passes number first second Q) (now : Float) (hfit : Fit number s)
    (hQ : Q s) :
    (passFrame second).run { s with clock := now } = (passFrame first).run { s with clock := now } ∧
      Hosted number Q s ((passFrame first).run { s with clock := now }).2 := by
  have htold := h.passed now hfit hQ
  have hclock : Kept number s { s with clock := now } := .clock s now
  simp only [passFrame, Act.run_change, htold.same, true_and]
  exact ⟨htold.kept.fit (hclock.fit hfit), hclock.toSteady.trans htold.kept.toSteady, htold.good⟩

/-! ## Commands -/

/-- Whether a command is one of a host: it edits the page, or passes on what a user does. -/
def Command.isHost : Command → Bool
  | .create _ | .connector .. | .update _ | .delete _ | .bind .. | .connect .. | .unbind _
  | .mark .. | .look _ | .input _ | .frame _ => true
  | _ => false

/-- The session after some commands. -/
def after (session : Session) (commands : List Command) : Session :=
  commands.foldl (fun session command => (session.perform command).2) session

/-- Whether a command makes bindings. -/
def Command.binds : Command → Bool
  | .connector .. | .bind .. | .connect .. => true
  | _ => false

/-- Whether a command takes something off the page. -/
def Command.removes : Command → Bool
  | .delete _ | .unbind _ => true
  | _ => false

/-- What is assumed of everything that a command of a host does. -/
structure Hosting (number : Nat) (first second : Notify) (P Q : Session → Prop)
    (command : Command) : Prop where
  creates : Creates number first second P Q
  binds : command.binds = true → Binds number first second Q
  removes : command.removes = true → Removes number first second Q
  updates : Updates number first second Q Q
  marked : ∀ {s : Session} (id : String) (marker : Marker), Fit number s → Q s →
    Q (s.withDocument (s.document.mark id marker))
  passes : Passes number first second Q

/-- A command of a host is the same under both ways of telling, to depths that exceed the number of
shapes, and keeps what the changes that it stores keep. -/
theorem carryOut_hosted {command : Command} (h : Hosting number first second P Q command)
    {depth other : Nat} (hdepth : ∀ {s : Session}, Q s → s.document.shapes.length < depth)
    (hother : ∀ {s : Session}, Q s → s.document.shapes.length < other)
    (hhost : command.isHost = true) :
    HostTwin number P Q (carryOut first depth command) (carryOut second other command) := by
  have hmono {α : Type} {f g : Act α} (htwin : HostTwin number Q Q f g) : HostTwin number P Q f g :=
    fun s hfit hP => htwin s hfit (h.creates.stays hfit hP)
  cases command with
  | create new => exact (createShape_hosted h.creates new).bind fun shape => .done _
  | connector source target text id =>
    exact (createConnector_hosted h.creates (h.binds rfl)
      source target text id).bind fun shape => .done _
  | update patch =>
    exact hmono ((updateShape_hosted h.updates (fun _ hQ => hQ) patch).bind fun shape => .done _)
  | delete id =>
    exact hmono ((deleteShape_hosted (h.removes rfl) hdepth hother id).bind fun _ => .done _)
  | bind connector target terminal id =>
    exact hmono ((createBinding_hosted (h.binds rfl)
      connector target terminal id).bind fun _ => .done _)
  | connect connector source target =>
    exact hmono ((connect_hosted (h.binds rfl) connector source target).bind fun _ => .done _)
  | unbind id =>
    have hunbind : HostTwin number Q Q (deleteBinding first id) (deleteBinding second id) :=
      fun s hfit hQ => ⟨(deleteBinding_emptied (h.removes rfl) hfit hQ id).1,
        (deleteBinding_emptied (h.removes rfl) hfit hQ id).2.toHosted⟩
    exact hmono (hunbind.bind fun _ => .done _)
  | mark id marker =>
    exact hmono ((setMarker_hosted h.updates h.marked id marker).bind fun _ => .done _)
  | look viewport? =>
    refine hmono fun s hfit hQ => ⟨rfl, ?_⟩
    exact .withDocument hfit (hfit.sound.congr rfl rfl rfl) rfl (h.passes.looked viewport? hfit hQ)
  | input event =>
    refine hmono ((takeInput_hosted h.passes event).bind fun _ => ?_)
    exact fun s hfit hQ => ⟨rfl, .refl hfit hQ⟩
  | frame now =>
    refine hmono fun s hfit hQ => ?_
    obtain ⟨hsame, hhosted⟩ := passFrame_hosted h.passes now hfit hQ
    simp only [carryOut, Act.run_bind, Act.run_change, hsame, true_and]
    exact hhosted
  | _ => cases hhost

end Canvasflow.Session
