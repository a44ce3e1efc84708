import Canvasflow.Proofs.Page.Agreement
import Canvasflow.Proofs.Session.Moves

/-!
# What reactions keep

An engine that reacts writes to the page in two ways: it patches the targets of the connectors that
it runs, and it marks and colours those connectors. Everything else that it does is `OffPage`. So a
property is kept by all reactions if it is `Reactive`: moves off the page keep it, and so do marks
and the patches of runs. Commands that do not edit the page keep it for the same reason
(`Reactive.carryOut_keeps`), and so does a notice that is handed out, provided that the answers of
observers keep it as well (`Reactive.handOut_keeps`).
-/

namespace Canvasflow.Session

open Canvasflow.Connector Canvasflow.Geometry Canvasflow.Page Canvasflow.Propagation
open Canvasflow.Program (Compiled)

/-- A quiet move that leaves everything that lies on the page as it is, and gives out no identity.
-/
structure OffPage (s t : Session) : Prop extends Quiet s t where
  page : s.document.SamePage t.document
  issued : t.document.issued = s.document.issued

/-- A property of sessions that is kept while engines react, where the patches that they write fit.
-/
structure Reactive (P : Session → Prop) (fits : Patch → Prop) : Prop where
  offPage {s t : Session} : P s → OffPage s t → P t
  marked {s : Session} {id : String} {shape : Shape} : P s → s.document.shape? id = some shape →
    ∀ marker, P (s.withDocument (s.document.mark id marker))
  updated {s : Session} {patch : Patch} {shape : Shape} {document : Document} : P s →
    fits patch → s.document.update patch = .ok (shape, document) → P (s.withDocument document)
  ran {s t : Session} {engine : Engine} {program : Compiled} {edge : Edge} {source target : Shape}
    {patch : Patch} {lines : Array String} : P s → P t →
    s.document.shape? edge.source = some source → s.document.shape? edge.target = some target →
    t.execute engine program source target = (.ok (some patch), lines) → fits patch
  coloured {s : Session} {id : String} {shape : Shape} {marker : Marker} {patch : Patch} : P s →
    s.document.shape? id = some shape → s.document.recoloring? shape marker = some patch →
    fits patch

variable {P : Session → Prop} {fits : Patch → Prop} {s t : Session}

namespace OffPage

/-- A move that leaves the page and the subscribers as they are. -/
theorem of_same (move : Move s t) (hdocument : t.document = s.document)
    (hsubscribers : t.subscribers = s.subscribers) : OffPage s t :=
  ⟨.of_same move (congrArg Document.shapes hdocument) hsubscribers, .of_eq hdocument,
    congrArg Document.issued hdocument⟩

theorem noted (s : Session) (step : Step) : OffPage s (s.note step) :=
  .of_same (.noted step) rfl rfl

theorem recorded (s : Session) (entry : Entry) : OffPage s (s.record entry) :=
  .of_same (.recorded entry) rfl rfl

theorem adjusted (s : Session) (number : Nat) {change : Engine → Engine}
    (hoptions : ∀ engine, (change engine).options = engine.options)
    (hpropagators : ∀ engine, (change engine).propagators = engine.propagators) :
    OffPage s (s.modifyEngine number change) :=
  .of_same (.adjusted number hoptions hpropagators) rfl rfl

theorem tended {number : Nat} {trigger : Trigger} {change : Propagator → Propagator}
    (h : s.Tending number trigger change) : OffPage s (s.modifyPropagator number trigger change) :=
  .of_same (.tended h) rfl rfl

theorem attended (s : Session) (number : Nat) : OffPage s { s with
    subscribers := s.subscribers ++ Topic.all.map fun topic => (topic, .engine number) } :=
  ⟨.attended s number, .refl _, rfl⟩

theorem silenced (s : Session) (keep : Topic × Subscriber → Bool) :
    OffPage s { s with subscribers := s.subscribers.filter keep } :=
  ⟨.silenced s keep, .refl _, rfl⟩

theorem looked (s : Session) (viewport? : Option (Box Float)) :
    OffPage s (s.withDocument { s.document with viewport? := viewport? }) :=
  ⟨.edited (.looked viewport?) (List.Subset.refl _), ⟨rfl, rfl, rfl, rfl⟩, rfl⟩

theorem pointed (s : Session) (pointer : Point Float) :
    OffPage s (s.withDocument { s.document with pointer := pointer }) :=
  ⟨.edited (.pointed pointer) (List.Subset.refl _), ⟨rfl, rfl, rfl, rfl⟩, rfl⟩

end OffPage

/-- What every step keeps is kept by any number of steps. -/
theorem foldl_keeps {α : Type} {step : Session → α → Session} {list : List α}
    (h : ∀ a ∈ list, ∀ s, P s → P (step s a)) (hs : P s) : P (list.foldl step s) := by
  induction list generalizing s with
  | nil => exact hs
  | cons a rest ih =>
    exact ih (fun b hb => h b (List.mem_cons_of_mem a hb)) (h a List.mem_cons_self s hs)

/-- An act that keeps a property, whether it fails or not. -/
def Act.Keeps {α : Type} (P : Session → Prop) (act : Act α) (s : Session) : Prop :=
  P s → P (act.run s).2

namespace Act.Keeps

variable {α β : Type} {first : Act α} {rest : α → Act β}

theorem pure (a : α) : (Pure.pure a : Act α).Keeps P s :=
  id

theorem throw (fault : Fault) : (throw fault : Act α).Keeps P s :=
  id

theorem change {step : Session → Session} (h : P s → P (step s)) : (change step).Keeps P s :=
  h

theorem ofGeometry (result : Except Geometry.Fault α) : (ofGeometry result).Keeps P s :=
  id

theorem bind (hfirst : first.Keeps P s) (hrest : ∀ a t, (rest a).Keeps P t) :
    (first >>= rest).Keeps P s := by
  unfold Keeps at hfirst ⊢
  rw [run_bind]
  generalize first.run s = ending at hfirst ⊢
  obtain ⟨fault | a, t⟩ := ending
  · exact hfirst
  · exact fun hs => hrest a t (hfirst hs)

/-- What comes after a look at the session may depend on it. -/
theorem get {rest : Session → Act β} (h : P s → P ((rest s).run s).2) :
    (MonadState.get >>= rest).Keeps P s :=
  h

theorem forM {act : α → Act Unit} {list : List α} (h : ∀ a ∈ list, ∀ s, (act a).Keeps P s) :
    (list.forM act).Keeps P s := by
  induction list generalizing s with
  | nil => exact .pure ()
  | cons a rest ih =>
    exact .bind (h a List.mem_cons_self s) fun _ _ =>
      ih fun b hb => h b (List.mem_cons_of_mem a hb)

theorem adapt {translate : Fault → Fault} {act : Act α} (h : act.Keeps P s) :
    Act.Keeps P (ExceptT.adapt translate act) s :=
  h

end Act.Keeps

/-- Whether a command leaves it to engines to change shapes, and brings no observer. -/
def Command.spares : Command → Bool
  | .create _ | .connector .. | .update _ | .delete _ | .bind .. | .connect .. | .unbind _
  | .mark .. | .load _ | .subscribe .. => false
  | _ => true

namespace Reactive

variable (h : Reactive P fits) {notify : Notify}
  (hnotify : ∀ notice s, P s → P (notify notice s))

/-! ## Changes of shapes -/

section Changes

include h hnotify

theorem updateShape_keeps {patch : Patch} (hfits : fits patch) :
    (updateShape notify patch).Keeps P s := by
  intro hs
  rw [run_updateShape]
  cases hupdate : s.document.update patch with
  | error fault => exact hs
  | ok stored => exact hnotify (.changed stored.1) _ (h.updated hs hfits hupdate)

theorem setMarker_keeps (id : String) (marker : Marker) :
    (setMarker notify id marker).Keeps P s := by
  refine .get fun hs => ?_
  dsimp only
  split
  · exact hs
  · rename_i shape hshape
    refine Act.Keeps.bind (.change fun hs => h.marked hs hshape marker) (fun _ _ => ?_) hs
    split
    · rename_i patch hpatch
      exact .bind (h.updateShape_keeps hnotify (h.coloured hs hshape hpatch)) fun _ _ => .pure ()
    · exact .pure ()

end Changes

/-! ## Runs -/

section Runs

variable (number : Nat)

include h

theorem cached_keeps {trigger : Trigger} {propagator : Propagator} {cache : ProgramCache}
    (hpropagator : (s.engineAt number).propagator? trigger = some propagator)
    (hcache : propagator.cache.Tended s.textOf? cache) (hs : P s) :
    P (s.modifyPropagator number trigger fun propagator => { propagator with cache := cache }) := by
  have hmem := List.mem_of_find?_eq_some hpropagator
  have htrigger : propagator.trigger = trigger := by simpa using List.find?_some hpropagator
  exact h.offPage hs (.tended fun other _ hother => ⟨hother, propagator, hmem, htrigger, hcache⟩)

theorem lookUpProgram_keeps (trigger : Trigger) (connector : String) :
    (lookUpProgram number trigger connector).Keeps P s := by
  refine .get fun hs => ?_
  split
  · exact hs
  · rename_i propagator hpropagator
    exact h.cached_keeps number hpropagator (.got connector) hs

theorem untrack_keeps (trigger : Trigger) (connector : String) (hs : P s) :
    P (untrack number trigger connector s) :=
  h.offPage hs (.tended fun propagator hmem htrigger =>
    ⟨htrigger, propagator, hmem, htrigger, .deleted connector⟩)

theorem track_keeps (trigger : Trigger) (edge : Edge) (hs : P s) :
    P (track number trigger edge s) :=
  h.offPage hs (.tended fun propagator hmem htrigger =>
    ⟨htrigger, propagator, hmem, htrigger, .untouched⟩)

theorem ensureProgram_keeps (trigger : Trigger) (connector : String) (hs : P s) :
    P (ensureProgram number trigger connector s) :=
  h.offPage hs (.tended fun propagator hmem htrigger =>
    ⟨htrigger, propagator, hmem, htrigger, .ensured connector⟩)

theorem withGuard_keeps (guard : Guard) (hs : P s) : P (s.withGuard number guard) :=
  have hguard : OffPage s (s.modifyEngine number fun engine => { engine with guard := guard }) :=
    .adjusted s number (fun _ => rfl) fun _ => rfl
  h.offPage (h.offPage hs hguard) (.noted _ _)

include hnotify

theorem runEdge_keeps (trigger : Trigger) (edge : Edge) :
    (runEdge notify number trigger edge).Keeps P s := by
  refine .get fun hs => ?_
  dsimp only
  split
  · rename_i source target hsource htarget
    refine Act.Keeps.bind (h.lookUpProgram_keeps number trigger edge.connector)
      (fun program? t => ?_) hs
    split
    · exact .throw _
    · rename_i program
      refine .get fun ht => ?_
      refine Act.Keeps.bind (.change fun ht => h.offPage ht (.of_same (.logged _) rfl rfl))
        (fun _ u => ?_) ht
      split
      · exact .pure ()
      · rename_i patch hpatch
        have hran := h.ran hs ht hsource htarget (Prod.ext hpatch rfl)
        exact .bind (h.updateShape_keeps hnotify hran) fun _ _ => .pure ()
      · exact .throw _
  · exact hs

theorem propagate_keeps (trigger : Trigger) (connector : String) (hs : P s) :
    P (propagate notify number trigger connector s).2 := by
  unfold propagate
  dsimp only
  split
  · exact hs
  · split
    · exact hs
    · split
      · exact h.setMarker_keeps hnotify connector .error hs
      · rename_i edge _ _ guard _
        have hran := h.runEdge_keeps hnotify number trigger edge (h.withGuard_keeps number guard hs)
        exact h.withGuard_keeps number _ (h.setMarker_keeps hnotify connector _ hran)

theorem reconsider_keeps (trigger : Trigger) (shape : Shape) (hs : P s) :
    P (reconsider notify number trigger shape s) := by
  unfold reconsider
  dsimp only
  split
  · exact hs
  · split
    · exact h.untrack_keeps number trigger shape.id hs
    · split
      · exact h.untrack_keeps number trigger shape.id hs
      · have hready := h.ensureProgram_keeps number trigger shape.id hs
        split
        · have hran := h.propagate_keeps hnotify number trigger shape.id hready
          split
          · exact h.track_keeps number trigger _ hran
          · exact h.untrack_keeps number trigger shape.id hran
        · exact h.track_keeps number trigger _ hready

theorem connectorChanged_keeps (trigger : Trigger) (shape : Shape) (hs : P s) :
    P (connectorChanged notify number trigger shape s) :=
  h.reconsider_keeps hnotify number trigger shape (h.offPage hs (.noted _ _))

end Runs

/-! ## Reactions of engines -/

section Reactions

variable (number : Nat)

omit h in
theorem eachPropagator_keeps {act : Trigger → Session → Session}
    (hact : ∀ trigger s, P s → P (act trigger s)) (hs : P s) : P (eachPropagator number act s) :=
  foldl_keeps (fun trigger _ s => hact trigger s) hs

include h

theorem withIndex_keeps (index : GridIndex Float) (hs : P s) : P (s.withIndex number index) :=
  h.offPage hs (.adjusted s number (fun _ => rfl) fun _ => rfl)

theorem indexOne_keeps (id : String) : (indexOne number id).Keeps P s := by
  refine .get fun hs => ?_
  split
  · exact hs
  · refine Act.Keeps.bind (.ofGeometry _) (fun box? t => ?_) hs
    split
    · exact .change (h.withIndex_keeps number _)
    · dsimp only
      refine .bind (.change (h.withIndex_keeps number _)) fun _ _ => ?_
      split
      · exact .pure ()
      · exact .throw _

theorem indexTree_keeps (depth : Nat) (id : String) : (indexTree number depth id).Keeps P s := by
  induction depth generalizing id s with
  | zero => exact .throw _
  | succ depth ih =>
    unfold indexTree
    refine .bind (h.indexOne_keeps number id) fun _ t =>
      .get (Act.Keeps.forM fun child _ u => ?_)
    split
    · exact ih child
    · exact .pure ()

theorem indexShape_keeps (id : String) : (indexShape number id).Keeps P s :=
  .get (h.indexTree_keeps number _ id)

theorem unindexShape_keeps (id : String) (hs : P s) : P (unindexShape number id s) := by
  unfold unindexShape
  split
  · exact hs
  · exact h.withIndex_keeps number _ hs

theorem engineDeleted_keeps (shape : Shape) (hs : P s) : P (engineDeleted number shape s) := by
  have hcleared := h.unindexShape_keeps number shape.id hs
  unfold engineDeleted
  dsimp only
  split
  · exact eachPropagator_keeps number (fun _ _ => h.untrack_keeps number _ _) hcleared
  · exact hcleared

theorem disposeEngine_keeps (hs : P s) : P (disposeEngine number s) :=
  h.offPage (h.offPage hs (.silenced s fun entry => !entry.2.isEngine number))
    (.of_same (.stopped number) rfl rfl)

theorem attend_keeps (hs : P s) : P (attend number s) :=
  have hrunning : OffPage s (s.modifyEngine number fun engine => { engine with running := true }) :=
    .adjusted s number (fun _ => rfl) fun _ => rfl
  h.offPage (h.offPage hs hrunning) (.attended _ number)

include hnotify

theorem runEach_keeps (trigger : Trigger) (fires : Session → String → Bool)
    (connectors : List String) (hs : P s) :
    P (runEach notify number trigger fires connectors s) := by
  refine foldl_keeps (fun connector _ s hs => ?_) hs
  split
  · exact h.propagate_keeps hnotify number trigger connector hs
  · exact hs

theorem runOnce_keeps (trigger : Trigger) (ran connectors : List String) (hs : P s) :
    P (runOnce notify number trigger ran connectors s) := by
  induction connectors generalizing ran s with
  | nil => exact hs
  | cons connector rest ih =>
    unfold runOnce
    split
    · exact ih _ (h.propagate_keeps hnotify number trigger connector hs)
    · exact ih ran hs

theorem runAffected_keeps (trigger : Trigger) (shape : Shape) (hs : P s) :
    P (runAffected notify number trigger shape s) := by
  unfold runAffected
  dsimp only
  split
  · split
    · exact h.runEach_keeps hnotify number _ _ _ hs
    · exact hs
  · split
    · exact hs
    · exact h.runEach_keeps hnotify number _ _ _ hs
  · exact hs
  · exact hs

theorem afterChange_keeps (trigger : Trigger) (shape : Shape) (hs : P s) :
    P (afterChange notify number trigger shape s) :=
  h.runAffected_keeps hnotify number trigger shape (h.offPage hs (.noted _ _))

theorem afterInput_keeps (trigger : Trigger) (event : InputEvent) :
    (afterInput notify number trigger event).Keeps P s := by
  unfold afterInput
  split
  · refine .get (Act.Keeps.bind (.ofGeometry _) fun hit t => ?_)
    split
    · exact .pure ()
    · split
      · exact .change (h.runOnce_keeps hnotify number _ _ _)
      · exact .pure ()
  · exact .pure ()

theorem afterFrame_keeps (trigger : Trigger) (hs : P s) :
    P (afterFrame notify number trigger s) := by
  unfold afterFrame
  split
  · exact h.runEach_keeps hnotify number _ _ _ hs
  · exact hs

theorem outerChanged_keeps (connectorType : String) (shape : Shape) (trigger : Trigger) (hs : P s) :
    P (outerChanged notify number connectorType shape trigger s) := by
  have hafter := h.afterChange_keeps hnotify number trigger shape hs
  unfold outerChanged
  dsimp only
  split
  · exact h.connectorChanged_keeps hnotify number trigger shape hafter
  · exact hafter

theorem innerChanged_keeps (id : String) (hs : P s) : P (innerChanged notify number id s) := by
  unfold innerChanged
  split
  · exact hs
  · exact eachPropagator_keeps number (fun _ _ => h.afterChange_keeps hnotify number _ _) hs

theorem spread_keeps (shape : Shape) (hs : P s) : P (spread notify number shape s) := by
  unfold spread
  dsimp only
  split
  · exact foldl_keeps (fun child _ _ => h.innerChanged_keeps hnotify number child) hs
  · exact eachPropagator_keeps number (fun trigger _ =>
      h.outerChanged_keeps hnotify number _ shape trigger) hs

theorem engineRebound_keeps (binding : Binding) (hs : P s) :
    P (engineRebound notify number binding s) := by
  unfold engineRebound
  dsimp only
  split
  · exact hs
  · split
    · exact hs
    · split
      · exact hs
      · exact eachPropagator_keeps number (fun _ _ =>
          h.connectorChanged_keeps hnotify number _ _) hs

theorem engineReacts_keeps (notice : Notice) : (engineReacts notify number notice).Keeps P s := by
  cases notice with
  | created shape => exact h.indexShape_keeps number shape.id
  | changed shape =>
    exact .bind (h.indexShape_keeps number shape.id) fun _ _ =>
      .change (h.spread_keeps hnotify number shape)
  | deleted shape => exact .change (h.engineDeleted_keeps number shape)
  | bound binding | unbound binding =>
    exact .change (h.engineRebound_keeps hnotify number binding)
  | input event =>
    exact .get (Act.Keeps.forM fun trigger _ _ => h.afterInput_keeps hnotify number trigger event)
  | frame =>
    refine .change fun hs => eachPropagator_keeps number (fun trigger _ =>
      h.afterFrame_keeps hnotify number trigger) ?_
    exact h.offPage hs (.adjusted s number (fun _ => rfl) fun _ => rfl)

theorem classifyAll_keeps (shapes : List Shape) (hs : P s) :
    P (classifyAll notify number shapes s) :=
  eachPropagator_keeps number (fun trigger _ hs => foldl_keeps (fun shape _ _ =>
    h.connectorChanged_keeps hnotify number trigger shape) hs) hs

theorem startEngine_keeps : (startEngine notify number).Keeps P s := by
  refine Act.Keeps.get ?_
  split
  · exact id
  · exact Act.Keeps.bind (.forM fun shape _ _ => h.indexShape_keeps number shape.id) fun _ _ =>
      .change fun hs => h.attend_keeps number (h.classifyAll_keeps hnotify number _ hs)

end Reactions

/-! ## Commands -/

section Commands

include h

theorem dismiss_keeps (serial : Nat) (hs : P s) : P (dismiss serial s) :=
  h.offPage hs (.silenced s fun entry => !entry.2.isObserver serial)

theorem unsubscribe_keeps (name : String) (hs : P s) : P (unsubscribe name s) := by
  unfold unsubscribe
  split
  · exact h.dismiss_keeps _ hs
  · exact hs

theorem useCache_keeps (number : Nat) (trigger : Trigger) (action : CacheAction) :
    (useCache number trigger action).Keeps P s := by
  refine .get fun hs => ?_
  split
  · exact hs
  · rename_i propagator hpropagator
    dsimp only
    refine Act.Keeps.bind (.change (h.cached_keeps number hpropagator ?_)) (fun _ _ => .pure _) hs
    cases action with
    | get connector => exact .got connector
    | set connector => exact .renewed connector
    | ensure connector => exact .ensured connector
    | delete connector => exact .deleted connector
    | clear => exact .cleared

theorem recordNotice_keeps (notice : Notice) (hs : P s) : P (s.recordNotice notice) := by
  unfold recordNotice
  split
  · exact h.offPage hs (.recorded s _)
  · exact hs

include hnotify

theorem callHook_keeps (number : Nat) (trigger : Trigger) (hook : Hook) :
    (callHook notify number trigger hook).Keeps P s := by
  refine .get fun hs => ?_
  cases hook with
  | connectorChanged id =>
    dsimp only
    split
    · exact hs
    · exact h.connectorChanged_keeps hnotify number trigger _ hs
  | shapeChanged id =>
    dsimp only
    split
    · split <;> exact hs
    · exact h.afterChange_keeps hnotify number trigger _ hs
  | connectorDeleted id => exact h.untrack_keeps number trigger id hs
  | input event =>
    exact Act.Keeps.bind (h.afterInput_keeps hnotify number trigger event) (fun _ _ => .pure _) hs
  | frame => exact h.afterFrame_keeps hnotify number trigger hs
  | propagate connector => exact h.propagate_keeps hnotify number trigger connector hs

theorem buildEngine_keeps (triggers : List Trigger) :
    (buildEngine notify triggers).Keeps P s := by
  refine .get fun hs => ?_
  split
  · exact hs
  · rename_i engine hbuild
    obtain ⟨size, rfl⟩ := build_ok hbuild
    refine Act.Keeps.bind (.change fun hs => ?_) (fun _ _ => ?_) hs
    · exact h.offPage hs (.of_same (.added (some (.empty size)) triggers) rfl rfl)
    · exact .bind (h.startEngine_keeps hnotify _) fun _ _ => .pure _

theorem takeInput_keeps (event : InputEvent) : (takeInput notify event).Keeps P s :=
  fun hs => hnotify (.input event) _ (h.offPage hs (.pointed s _))

/-- What a command does that spares the page keeps what reactions keep. -/
theorem carryOut_keeps (depth : Nat) {command : Command} (hspares : command.spares) :
    (carryOut notify depth command).Keeps P s := by
  cases command with
  | rest => exact .pure _
  | look viewport? => exact fun hs => h.offPage hs (.looked s viewport?)
  | input event => exact .bind (h.takeInput_keeps hnotify event) fun _ _ => .get id
  | frame now =>
    exact fun hs => hnotify .frame _ (h.offPage hs (.of_same (.timed now) rfl rfl))
  | unsubscribe name => exact h.unsubscribe_keeps name
  | engine triggers => exact h.buildEngine_keeps hnotify triggers
  | start =>
    refine Act.Keeps.get ?_
    split
    · exact id
    · exact Act.Keeps.bind (h.startEngine_keeps hnotify _) fun _ _ => .pure _
  | dispose =>
    refine Act.Keeps.get ?_
    split
    · exact id
    · exact h.disposeEngine_keeps _
  | standalone trigger =>
    exact fun hs => h.offPage hs (.of_same (.added none [trigger]) rfl rfl)
  | call trigger hook =>
    refine Act.Keeps.get ?_
    split
    · exact id
    · exact h.callHook_keeps hnotify _ trigger hook
  | cache trigger action =>
    refine Act.Keeps.get ?_
    split
    · exact id
    · exact h.useCache_keeps _ trigger action
  | enter connector =>
    refine Act.Keeps.get ?_
    split
    · exact id
    · refine Act.Keeps.get ?_
      split
      · exact h.withGuard_keeps _ _
      · exact id
  | exit connector =>
    refine Act.Keeps.get ?_
    split
    · exact id
    · exact h.withGuard_keeps _ _
  | _ => cases hspares

/-- Telling a subscriber keeps what reactions keep if what it may answer does. -/
theorem tell_keeps (depth : Nat) (notice : Notice) {subscriber : Subscriber}
    (hanswer : ∀ {serial : Nat} {observer : Observer} {command : Command} {t : Session},
      subscriber = .observer serial observer → observer.reaction? = some command →
        (carryOut notify depth command).Keeps P t)
    (hs : P s) : P (tell notify depth notice s subscriber) := by
  cases subscriber with
  | engine number =>
    have hreacts := h.engineReacts_keeps hnotify number notice hs
    unfold tell
    dsimp only
    generalize (engineReacts notify number notice).run s = ending at hreacts ⊢
    obtain ⟨fault | _, told⟩ := ending
    · exact h.offPage hreacts (.noted told _)
    · exact hreacts
  | observer serial observer =>
    have htold := h.offPage hs (.recorded s (.observed observer.name notice.about?))
    unfold tell
    dsimp only
    split
    · exact htold
    · rename_i command hcommand
      exact hanswer rfl hcommand (h.dismiss_keeps serial htold)

theorem handOut_keeps (depth : Nat) (notice : Notice)
    (hanswers : ∀ {topic : Topic} {serial : Nat} {observer : Observer} {command : Command}
      {t : Session}, (topic, .observer serial observer) ∈ (s.recordNotice notice).subscribers →
        observer.reaction? = some command → (carryOut notify depth command).Keeps P t)
    (hs : P s) : P (handOut notify depth notice s) := by
  refine foldl_keeps (fun subscriber hsubscriber t ht => ?_) (h.recordNotice_keeps notice hs)
  refine h.tell_keeps hnotify depth notice ?_ ht
  rintro serial observer command u rfl hcommand
  -- The subscribers are those of the session before the first of them was told.
  obtain ⟨⟨topic, _⟩, hentry, rfl⟩ := List.mem_map.mp hsubscriber
  exact hanswers (List.mem_of_mem_filter hentry) hcommand

end Commands

end Reactive

end Canvasflow.Session
