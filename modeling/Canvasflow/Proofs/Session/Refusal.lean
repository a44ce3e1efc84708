import Canvasflow.Proofs.Session.Editing
import Canvasflow.Proofs.Session.Invariants

/-!
# Refused commands

What a command that fails leaves of the page. A command that is a single change of a document fails
before anything is stored, whoever is told of changes and whatever they answer. Two commands consist
of several changes, of which each is checked on its own: a connector is made before it is bound, and
bound at its start before its end is looked at. What such a command has `begun?` stays when a later
check fails. `refused_leaves_page` says so of every page that commands build.
-/

namespace Canvasflow.Session

open Canvasflow.Connector Canvasflow.Page

/-- Whether a command is a single change of the page. -/
def Command.isSingle : Command → Bool
  | .create _ | .update _ | .bind .. | .unbind _ | .mark .. => true
  | _ => false

/-- The connector that is made between two shapes, at the place of the first one. -/
def joining (document : Document) (start : Shape) (text id : String) : NewShape :=
  { type := document.style.connectorType, x := .double start.x, y := .double start.y, id := id
    props := [("text", .str text), ("color", .str document.style.okColor)] }

/-- The page with what a command stores before its last check, if it stores something by then. -/
def begun? (document : Document) : Command → Option Document
  | .connect connector source _ =>
    match document.bind connector source .start "" with
    | (.ok _, next) => some next
    | (.error _, _) => none
  | .connector source _ text id =>
    match document.shape? source with
    | none => none
    | some start =>
      match document.create (joining document start text id) with
      | (.ok shape, next) => some (next.bind shape.id source .start "").2
      | (.error _, _) => none
  | _ => none

/-- Whether a page is left as it was before, if nothing was begun, or as it was begun, but for what
engines wrote into shapes. -/
def Leaves (before : Document) (begun? : Option Document) (after : Document) : Prop :=
  match begun? with
  | none => before.SamePage after
  | some page => after.plan = page.plan ∧ after.bindings = page.bindings

variable {notify : Notify} {s t : Session} {fault : Fault}

/-- What is answered at the end of an act does not fail. -/
theorem Act.run_of_answered {α β : Type} {act : Act α} {answer : α → β}
    (h : (act >>= fun a => pure (answer a)).run s = (.error fault, t)) :
    act.run s = (.error fault, t) := by
  rw [run_bind] at h
  split at h
  · cases h
  · rename_i hrun
    cases h
    exact hrun

/-! ## Single changes -/

theorem createShape_refused {new : NewShape}
    (h : (createShape notify new).run s = (.error fault, t)) :
    s.document.SamePage t.document := by
  rw [run_createShape] at h
  rcases hcreate : s.document.create new with ⟨reason | shape, document⟩
  · obtain ⟨issued, rfl⟩ := Document.create_error hcreate
    rw [hcreate] at h
    cases h
    exact ⟨rfl, rfl, rfl, rfl⟩
  · rw [hcreate] at h
    cases h

theorem createBinding_refused {connector target : String} {terminal : Terminal} {id : String}
    (h : (createBinding notify connector target terminal id).run s = (.error fault, t)) :
    s.document.SamePage t.document := by
  rw [run_createBinding] at h
  rcases hbind : s.document.bind connector target terminal id with ⟨reason | binding, document⟩
  · obtain ⟨issued, rfl⟩ := Document.bind_error hbind
    rw [hbind] at h
    cases h
    exact ⟨rfl, rfl, rfl, rfl⟩
  · rw [hbind] at h
    cases h

theorem updateShape_refused {patch : Patch}
    (h : (updateShape notify patch).run s = (.error fault, t)) : t = s := by
  rw [run_updateShape] at h
  cases hupdate : s.document.update patch with
  | error reason =>
    rw [hupdate] at h
    cases h
    rfl
  | ok stored =>
    rw [hupdate] at h
    cases h

theorem deleteBinding_refused {id : String}
    (h : (deleteBinding notify id).run s = (.error fault, t)) : t = s := by
  rw [run_deleteBinding] at h
  cases hunbind : s.document.unbind id with
  | error reason =>
    rw [hunbind] at h
    cases h
    rfl
  | ok undone =>
    rw [hunbind] at h
    cases h

/-- The colour of a marker is given to every shape that there is. -/
theorem update_recoloring {document : Document} {id : String} {shape : Shape} {marker : Marker}
    {patch : Patch} (hnamed : document.Named) (hshape : document.shape? id = some shape)
    (hpatch : document.recoloring? shape marker = some patch) :
    ∃ stored, (document.mark id marker).update patch = .ok stored := by
  unfold Document.recoloring? at hpatch
  dsimp only at hpatch
  split at hpatch
  · cases hpatch
  · cases hpatch
    have hmarked : (document.mark id marker).shape? shape.id = some shape := by
      rw [hnamed.find_shape hshape]
      exact hshape
    simp only [Document.update, hmarked]
    exact ⟨_, rfl⟩

theorem setMarker_refused (hs : s.document.Named) {id : String} {marker : Marker}
    (h : (setMarker notify id marker).run s = (.error fault, t)) : t = s := by
  simp only [setMarker, Act.run_bind, Act.run_get] at h
  cases hshape : s.document.shape? id with
  | none =>
    rw [hshape] at h
    cases h
    rfl
  | some shape =>
    simp only [hshape, Act.run_bind, Act.run_change] at h
    cases hpatch : s.document.recoloring? shape marker with
    | none =>
      rw [hpatch] at h
      cases h
    | some patch =>
      obtain ⟨⟨changed, document⟩, hupdate⟩ := update_recoloring hs hshape hpatch
      have hdocument : (s.withDocument (s.document.mark id marker)).document =
          s.document.mark id marker := rfl
      simp only [hpatch, Act.run_bind, run_updateShape, hdocument, hupdate] at h
      cases h

/-- A single change that fails leaves the page as it was, whoever is told of changes. -/
theorem single_refused (hs : s.document.Named) {depth : Nat} {command : Command}
    (hsingle : command.isSingle) (h : (carryOut notify depth command).run s = (.error fault, t)) :
    s.document.SamePage t.document := by
  cases command with
  | create new => exact createShape_refused (Act.run_of_answered h)
  | bind connector target terminal id =>
    exact createBinding_refused (Act.run_of_answered h)
  | update patch => exact .of_eq (congrArg _ (updateShape_refused (Act.run_of_answered h)))
  | unbind id => exact .of_eq (congrArg _ (deleteBinding_refused (Act.run_of_answered h)))
  | mark id marker => exact .of_eq (congrArg _ (setMarker_refused hs (Act.run_of_answered h)))
  | _ => cases hsingle

/-! ## Changes that consist of others -/

section Composite

variable (hnotify : Discreet notify)
include hnotify

/-- A connector that could not be bound at both ends is bound at its start if it could be bound
there. -/
theorem connect_refused (hs : s.Calm) {connector source target : String}
    (h : (connect notify connector source target).run s = (.error fault, t)) :
    let next := (s.document.bind connector source .start "").2
    (t.document.plan = next.plan ∧ t.document.bindings = next.bindings) ∧
      ∀ reason, (s.document.bind connector source .start "").1 = .error reason →
        s.document.SamePage t.document := by
  have hwhole := hs.whole.bound connector source .start ""
  rw [connect, Act.run_bind, run_createBinding] at h
  rcases hbind : s.document.bind connector source .start "" with ⟨reason | first, next⟩
  · obtain ⟨issued, rfl⟩ := Document.bind_error hbind
    rw [hbind] at h
    cases h
    exact ⟨⟨rfl, rfl⟩, fun _ _ => ⟨rfl, rfl, rfl, rfl⟩⟩
  · rw [hbind] at h hwhole
    obtain ⟨_, hplan⟩ := hs.told hnotify (.bound first) hwhole
    have hpage := createBinding_refused (Act.run_of_answered h)
    exact ⟨⟨hpage.plan.trans hplan.plan, hpage.bindings.trans hplan.bindings⟩, nofun⟩

/-- A connector that could not be bound at both ends is there, and bound at its start if it could be
bound there. -/
theorem createConnector_refused (hs : s.Calm) {source target text id : String} {start : Shape}
    (hstart : s.document.shape? source = some start)
    (h : (createConnector notify source target text id).run s = (.error fault, t)) :
    match s.document.create (joining s.document start text id) with
    | (.error _, _) => s.document.SamePage t.document
    | (.ok shape, next) =>
      let bound := (next.bind shape.id source .start "").2
      t.document.plan = bound.plan ∧ t.document.bindings = bound.bindings := by
  have hwhole := hs.whole.created (joining s.document start text id)
  have hparts : (createConnector notify source target text id).run s =
      (createShape notify (joining s.document start text id) >>= fun shape =>
        connect notify shape.id source target >>= fun _ => pure shape).run s := by
    rw [createConnector, Act.run_bind, Act.run_get]
    simp only [hstart]
    rfl
  rw [hparts, Act.run_bind, run_createShape] at h
  rcases hcreate : s.document.create (joining s.document start text id) with
    ⟨reason | shape, next⟩ <;> rw [hcreate] at h hwhole
  · obtain ⟨issued, rfl⟩ := Document.create_error hcreate
    cases h
    exact ⟨rfl, rfl, rfl, rfl⟩
  · obtain ⟨hcalm, hplan⟩ := hs.told hnotify (.created shape) hwhole
    obtain ⟨⟨hleft, hbindings⟩, _⟩ := connect_refused hnotify hcalm (Act.run_of_answered h)
    have hbound := (hplan.bind shape.id source .start "").2
    exact ⟨hleft.trans hbound.plan, hbindings.trans hbound.bindings⟩

end Composite

/-! ## Commands -/

/-- What a command has begun is not what was there before. -/
theorem begun_differs {document page : Document} {command : Command}
    (h : begun? document command = some page) :
    page.plan ≠ document.plan ∨ page.bindings ≠ document.bindings := by
  unfold begun? at h
  split at h
  · split at h
    · rename_i hbind
      cases h
      obtain ⟨_, _, _, _, _, _, issued, rfl⟩ := Document.bind_ok hbind
      exact .inr (by simp)
    · cases h
  · split at h
    · cases h
    · split at h
      · rename_i shape next hcreate
        cases h
        obtain ⟨_, _, issued, rfl⟩ := Document.create_ok hcreate
        refine .inl fun hsame => ?_
        have hlength := congrArg List.length hsame
        simp [Document.bind_shapes] at hlength
      · cases h
  · cases h

/-- What a command that edits the page leaves when it fails, where no observer answers. -/
theorem calm_refused (hs : s.Calm) (hnamed : s.document.Named) {command : Command}
    (hedits : command.edits) (h : s.perform command = (.error fault, t)) :
    Leaves s.document (begun? s.document command) t.document := by
  have hnotify := notifyWithin_discreet (s.room command) (s.room command)
  have hroom := length_shapes_lt_room s command
  unfold perform at h
  dsimp only at h
  cases command with
  | connect connector source target =>
    obtain ⟨hleft, hrefused⟩ := connect_refused hnotify hs (Act.run_of_answered h)
    simp only [begun?]
    rcases hbind : s.document.bind connector source .start "" with ⟨reason | first, next⟩ <;>
      rw [hbind] at hleft hrefused
    · exact hrefused reason rfl
    · exact hleft
  | connector source target text id =>
    replace h := Act.run_of_answered h
    cases hstart : s.document.shape? source with
    | none =>
      simp only [createConnector, Act.run_bind, Act.run_get, hstart] at h
      cases h
      simp only [begun?, hstart]
      exact .refl _
    | some start =>
      have hleft := createConnector_refused hnotify hs hstart h
      simp only [begun?, hstart]
      rcases hcreate : s.document.create (joining s.document start text id) with
        ⟨reason | shape, next⟩ <;>
        (rw [hcreate] at hleft; exact hleft)
  | delete id =>
    replace h := Act.run_of_answered h
    change s.document.SamePage t.document
    cases hshape : s.document.shape? id with
    | none =>
      rw [run_deleteShape_missing (Nat.zero_lt_of_lt hroom) hshape] at h
      cases h
      exact .refl _
    | some shape =>
      -- The removal of what is on the page succeeds.
      obtain ⟨_, _, u, hrun, _⟩ := deleteShape_clears hnotify hs (by rw [hshape]; rfl)
        (Nat.lt_of_le_of_lt (Nat.sub_le _ (s.document.place id)) hroom)
      rw [hrun] at h
      cases h
  | subscribe topic name fails reaction? => cases h
  | create | update | bind | unbind | mark => exact single_refused hnamed rfl h
  | _ => cases hedits

/-- A single change that fails leaves shapes, bindings and markers as they were, after any commands
and whatever engines and observers do. Where no observer answers, so does every command that edits
the page, except for one that has begun: it leaves the page with what it has stored, but for what
engines wrote into shapes. So a connector stays that could not be bound at both ends, and a binding
stays where the other end could not be bound. -/
theorem refused_leaves_page (settings : Settings) (style : Style) (commands : List Command)
    {command : Command} {fault : Fault} {t : Session} :
    let s := (new settings (.empty style)).after commands
    s.perform command = (.error fault, t) →
      (command.isSingle → s.document.SamePage t.document) ∧
      ((∀ earlier ∈ commands, earlier.unanswered) → command.edits →
        (s.document.SamePage t.document ↔ begun? s.document command = none) ∧
        ∀ page, begun? s.document command = some page →
          t.document.plan = page.plan ∧ t.document.bindings = page.bindings) := by
  intro s h
  have hnamed : s.document.Named := after_named (.empty style) commands
  refine ⟨fun hsingle => single_refused hnamed hsingle h, fun hearlier hedits => ?_⟩
  have hs : s.Calm := unanswered_calm (new_calm settings style) hearlier
  have hleaves := calm_refused hs hnamed hedits h
  cases hbegun : begun? s.document command with
  | none =>
    rw [hbegun] at hleaves
    exact ⟨⟨fun _ => rfl, fun _ => hleaves⟩, fun _ hpage => by cases hpage⟩
  | some page =>
    rw [hbegun] at hleaves
    obtain ⟨hplan, hbindings⟩ := hleaves
    refine ⟨⟨fun hsame => ?_, fun hnone => by cases hnone⟩, fun _ hpage => ?_⟩
    · rcases begun_differs hbegun with hdiffers | hdiffers
      · exact absurd (hplan.symm.trans hsame.plan) hdiffers
      · exact absurd (hbindings.symm.trans hsame.bindings) hdiffers
    · cases hpage
      exact ⟨hplan, hbindings⟩

/-- A page with an engine at work and an observer that fails. -/
def watched : List Command :=
  [.engine [.change], .subscribe .bound "watcher" true none, .create { type := "geo", id := "a" }]

theorem severed_connector_stays :
    let s := (new .defaults (.empty (styleOf .defaults))).after watched
    (∀ command ∈ watched, command.unanswered) ∧
      ∃ fault t, s.perform (.connector "a" "nowhere" "" "c") = (.error fault, t) ∧
        ¬ s.document.SamePage t.document ∧ Entries.keys t.document.plan = ["a", "c"] ∧
        t.document.pageBindings.map Binding.connector = ["c"] := by
  intro s
  have hwatched : ∀ command ∈ watched, command.unanswered := by
    simp [watched, Command.unanswered]
  have hfails : (s.perform (.connector "a" "nowhere" "" "c")).1.isOk = false := by decide +kernel
  rcases hrun : s.perform (.connector "a" "nowhere" "" "c") with ⟨fault | reply, t⟩ <;>
    rw [hrun] at hfails
  · obtain ⟨hsame, hleft⟩ :=
      (refused_leaves_page .defaults (styleOf .defaults) watched hrun).2 hwatched rfl
    obtain ⟨page, hpage⟩ :
        ∃ page, begun? s.document (.connector "a" "nowhere" "" "c") = some page :=
      Option.isSome_iff_exists.mp (by decide +kernel)
    have hkeys : (begun? s.document (.connector "a" "nowhere" "" "c")).map
        (fun page => (Entries.keys page.plan, page.pageBindings.map Binding.connector)) =
          some (["a", "c"], ["c"]) := by decide +kernel
    obtain ⟨hplan, hbindings⟩ := hleft page hpage
    simp only [hpage, Option.map_some, Option.some.injEq, Prod.mk.injEq] at hkeys
    refine ⟨hwatched, fault, t, rfl, fun h => ?_, hplan ▸ hkeys.1, ?_⟩
    · rw [hsame.mp h] at hpage
      cases hpage
    · rw [Document.pageBindings, hbindings]
      exact hkeys.2
  · cases hfails

end Canvasflow.Session
