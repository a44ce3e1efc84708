import Canvasflow.Proofs.Session.Indexing
import Canvasflow.Proofs.Session.Reaction

/-!
# Notices

What holds through a notice that is handed out, however deep the notices nest that follow from it.
The reaction to each kind of notice keeps a property under what it does besides running connectors,
and `agree_notifyWithin` closes the circle: since runs tell of changes only below the rank from
which they began, two depths that both exceed the rank hand notices out alike, and with a property
that every reaction keeps. `notifyWithin_kept` is what remains without any bound on the depth.
-/

namespace Canvasflow.Session

open Canvasflow.Connector Canvasflow.Geometry Canvasflow.Page Canvasflow.Propagation

variable {number bound : Nat} {Good P Q : Session → Prop} {Due : Shape → Session → Prop}
  {first second : Notify}

/-! ## Reactions to notices -/

theorem indexShape_twin
    (hindex : ∀ {s t : Session}, Fit number s → Good s → Reindexed number s t → Good t)
    (id : String) :
    ActTwin number bound Good Good (indexShape number id) (indexShape number id) := by
  refine .silent fun s hfit hgood => ?_
  have hreindexed := indexShape_reindexed hfit.sound number id
  exact ⟨hreindexed.kept hfit.present, hindex hfit hgood hreindexed, by rw [hreindexed.document_eq]⟩

theorem engineChanged_twin (hagree : Agree number Good Due first second bound)
    (hupkeep : Upkeep number Good Due)
    (hindex : ∀ {s t : Session}, Fit number s → Good s → Reindexed number s t → Good t)
    {shape : Shape} (hsort : ∀ trigger, Sorting number Good Good trigger shape) :
    ActTwin number bound Good Good (engineChanged first number shape)
      (engineChanged second number shape) :=
  .bind (indexShape_twin hindex shape.id) fun _ => .change (spread_twin hagree hupkeep hsort)

/-- What an engine does after the deletion of a shape tells nobody. -/
theorem engineDeleted_twin
    (hindex : ∀ {s t : Session}, Fit number s → Good s → Reindexed number s t → Good t)
    (shape : Shape)
    (huntrack : ∀ {s : Session} (trigger : Trigger), Fit number s → Good s →
      Good (untrack number trigger shape.id s)) :
    Twin number bound Good Good (engineDeleted number shape) (engineDeleted number shape) := by
  have huntracked : Twin number bound Good Good
      (eachPropagator number fun trigger => untrack number trigger shape.id)
      (eachPropagator number fun trigger => untrack number trigger shape.id) :=
    eachPropagator_twin fun trigger => .silent fun s hfit hgood =>
      ⟨.untrack hfit trigger shape.id, huntrack trigger hfit hgood, rfl⟩
  intro s hfit hgood hbound
  have hcleared := unindexShape_reindexed number shape.id s
  have hstep := (Reached.refl hgood (Nat.le_refl _)).step (hcleared.kept hfit.present)
    (hindex hfit hgood hcleared) (by rw [hcleared.document_eq])
  unfold engineDeleted
  simp only
  split
  · obtain ⟨_, hreached⟩ := huntracked _ (hstep.kept.fit hfit) hstep.good
      (Nat.le_trans hstep.low hbound)
    exact ⟨trivial, hstep.trans hreached⟩
  · exact ⟨trivial, hstep⟩

theorem input_twin (hagree : Agree number Good Due first second bound)
    (hupkeep : Upkeep number Good Due) (event : InputEvent) :
    ActTwin number bound Good Good (engineReacts first number (.input event))
      (engineReacts second number (.input event)) :=
  .get fun _ _ _ => .forM _ fun trigger _ => afterInput_twin hagree hupkeep trigger event

theorem frame_twin (hagree : Agree number Good Due first second bound)
    (hupkeep : Upkeep number Good Due)
    (htimed : ∀ {s : Session}, Fit number s → Good s →
      Good (s.modifyEngine number fun engine =>
        { engine with timer := engine.timer.tick s.clock })) :
    ActTwin number bound Good Good (engineReacts first number .frame)
      (engineReacts second number .frame) := by
  have htick : Twin number bound Good Good
      (fun s => s.modifyEngine number fun engine =>
        { engine with timer := engine.timer.tick s.clock })
      (fun s => s.modifyEngine number fun engine =>
        { engine with timer := engine.timer.tick s.clock }) :=
    .silent fun s hfit hgood => ⟨.modifyEngine hfit.present rfl rfl rfl id, htimed hfit hgood, rfl⟩
  exact .change (htick.andThen (eachPropagator_twin (afterFrame_twin hagree hupkeep)))

/-! ## Handing out -/

theorem tell_twin {notice : Notice}
    (hreact : ActTwin number bound P P (engineReacts first number notice)
      (engineReacts second number notice))
    (hfailed : ∀ s, P s → P (s.note (.failed number notice.topic notice.about?)))
    (depth other : Nat) :
    Twin number bound P P (fun s => tell first depth notice s (.engine number))
      (fun s => tell second other notice s (.engine number)) := by
  intro s hfit hP hbound
  obtain ⟨hsame, hreached⟩ := hreact s hfit hP hbound
  simp only [tell, hsame]
  rcases hrun : (engineReacts first number notice).run s with ⟨fault | _, t⟩ <;>
    rw [hrun] at hreached
  · exact ⟨trivial, hreached.step (.note t fun _ => nofun) (hfailed t hreached.good) rfl⟩
  · exact ⟨trivial, hreached⟩

/-- Whoever is told is the engine. -/
theorem Fit.subscriber_eq {s : Session} (hfit : Fit number s) {topic : Topic}
    {subscriber : Subscriber}
    (h : subscriber ∈ s.subscribersOf topic) : subscriber = .engine number := by
  obtain ⟨entry, hentry, rfl⟩ := List.mem_map.mp h
  obtain ⟨other, heq⟩ := hfit.heard entry (List.mem_filter.mp hentry).1
  rw [heq]

theorem record_twin (notice : Notice) (h : ∀ s, P s → Q (s.recordNotice notice)) :
    Twin number bound P Q (fun s => s.recordNotice notice) (fun s => s.recordNotice notice) := by
  refine .silent fun s _ hP => ⟨.record s notice, h s hP, ?_⟩
  unfold recordNotice
  split <;> rfl

theorem handOut_twin {notice : Notice} {depth other : Nat}
    (hrecord : ∀ s, P s → P (s.recordNotice notice))
    (htell : Twin number bound P P (fun s => tell first depth notice s (.engine number))
      (fun s => tell second other notice s (.engine number))) :
    Twin number bound P P (handOut first depth notice) (handOut second other notice) := by
  have hall : Twin number bound P P
      (fun s => (s.subscribersOf notice.topic).foldl (tell first depth notice) s)
      (fun s => (s.subscribersOf notice.topic).foldl (tell second other notice) s) := by
    intro s hfit hP hbound
    refine Twin.foldl _ (fun subscriber hsubscriber => ?_) s hfit hP hbound
    rw [hfit.subscriber_eq hsubscriber]
    exact htell
  exact (record_twin notice hrecord).andThen hall

/-- Notices after changes of shapes are handed out alike to two depths that exceed the rank, if
every reaction to one keeps what is wanted. -/
theorem agree_notifyWithin (span width : Nat)
    (hreact : ∀ {first second : Notify} {bound : Nat}, Agree number Good Due first second bound →
      ∀ shape, Twin number bound (Due shape) Good (handOut first span (.changed shape))
        (handOut second width (.changed shape)))
    {depth other : Nat} (hdepth : bound ≤ depth) (hother : bound ≤ other) :
    Agree number Good Due (notifyWithin span depth) (notifyWithin width other) bound := by
  induction bound generalizing depth other with
  | zero => exact ⟨fun _ hrank => absurd hrank (Nat.not_lt_zero _),
      fun _ hrank => absurd hrank (Nat.not_lt_zero _)⟩
  | succ bound ih =>
    obtain ⟨depth, rfl⟩ : ∃ rest, depth = rest + 1 := ⟨depth - 1, by omega⟩
    obtain ⟨other, rfl⟩ : ∃ rest, other = rest + 1 := ⟨other - 1, by omega⟩
    have hhand := hreact (ih (Nat.le_of_succ_le_succ hdepth) (Nat.le_of_succ_le_succ hother))
    constructor
    · intro shape s hfit hrank hdue
      exact (hhand shape s hfit hdue (Nat.le_of_lt_succ hrank)).1
    · intro shape s hfit hrank hdue
      exact (hhand shape s hfit hdue (Nat.le_of_lt_succ hrank)).2

/-! ## Without a property -/

/-- Of what every session is. -/
abbrev Any (_ : Session) : Prop := True

/-- What is always due. -/
abbrev Always (_ : Shape) (_ : Session) : Prop := True

theorem upkeep_any (number : Nat) : Upkeep number Any Always :=
  ⟨fun _ _ => trivial, fun _ _ _ => trivial, fun _ _ _ _ _ _ => trivial, fun _ _ => trivial,
    fun _ _ _ _ => trivial, fun _ _ _ _ => trivial, fun _ _ _ _ _ => trivial⟩

theorem sorting_any (number : Nat) (trigger : Trigger) (shape : Shape) :
    Sorting number Any Any trigger shape :=
  ⟨fun _ _ _ => trivial, fun _ _ _ _ => trivial, fun _ _ _ => trivial⟩

theorem engineReacts_twin (hagree : Agree number Any Always first second bound) (notice : Notice) :
    ActTwin number bound Any Any (engineReacts first number notice)
      (engineReacts second number notice) := by
  have hupkeep := upkeep_any number
  have hsort := sorting_any number
  have hrebound (binding : Binding) : Twin number bound Any Any (engineRebound first number binding)
      (engineRebound second number binding) :=
    engineRebound_twin hagree hupkeep fun _ _ _ trigger => hsort trigger _
  cases notice with
  | created shape => exact indexShape_twin (fun _ _ _ => trivial) shape.id
  | changed shape =>
    exact engineChanged_twin hagree hupkeep (fun _ _ _ => trivial) fun trigger =>
      hsort trigger shape
  | deleted shape =>
    exact .change (engineDeleted_twin (fun _ _ _ => trivial) shape fun _ _ _ => trivial)
  | bound binding => exact .change (hrebound binding)
  | unbound binding => exact .change (hrebound binding)
  | input event => exact input_twin hagree hupkeep event
  | frame => exact frame_twin hagree hupkeep fun _ _ => trivial

theorem handOut_any (hagree : Agree number Any Always first second bound) (span width : Nat)
    (notice : Notice) :
    Twin number bound Any Any (handOut first span notice) (handOut second width notice) :=
  handOut_twin (fun _ _ => trivial)
    (tell_twin (engineReacts_twin hagree notice) (fun _ _ => trivial) span width)

/-- Two depths that exceed the rank of a session hand a notice out alike. -/
theorem notifyWithin_eq (span width : Nat) {depth other : Nat} {s : Session} (hfit : Fit number s)
    (hdepth : s.rank number < depth) (hother : s.rank number < other) (notice : Notice) :
    notifyWithin width other notice s = notifyWithin span depth notice s := by
  obtain ⟨depth, rfl⟩ : ∃ rest, depth = rest + 1 := ⟨depth - 1, by omega⟩
  obtain ⟨other, rfl⟩ : ∃ rest, other = rest + 1 := ⟨other - 1, by omega⟩
  have hagree : Agree number Any Always (notifyWithin span depth) (notifyWithin width other)
      (s.rank number) :=
    agree_notifyWithin span width
      (fun hagree shape => handOut_any hagree span width (.changed shape))
      (Nat.le_of_lt_succ hdepth) (Nat.le_of_lt_succ hother)
  exact (handOut_any hagree span width notice s hfit trivial (Nat.le_refl _)).1

/-- To any depth, notices are handed out like themselves and keep sessions. -/
theorem agree_any (number span depth bound : Nat) :
    Agree number Any Always (notifyWithin span depth) (notifyWithin span depth) bound := by
  have htwin (notice : Notice) : Twin number bound Any Any (notifyWithin span depth notice)
      (notifyWithin span depth notice) := by
    induction depth generalizing bound notice with
    | zero => exact record_twin notice fun _ _ => trivial
    | succ depth ih =>
      have hagree : Agree number Any Always (notifyWithin span depth)
        (notifyWithin span depth) bound :=
        ⟨fun _ _ _ => rfl, fun hfit hrank _ =>
          (ih bound (.changed _) _ hfit trivial (Nat.le_of_lt hrank)).2⟩
      exact handOut_any hagree span span notice
  exact ⟨fun _ _ _ => rfl, fun hfit hrank _ =>
    (htwin (.changed _) _ hfit trivial (Nat.le_of_lt hrank)).2⟩

/-- To any depth, handing out a notice keeps the session. -/
theorem notifyWithin_kept (span depth : Nat) (notice : Notice) {s : Session} (hfit : Fit number s) :
    Kept number s (notifyWithin span depth notice s) := by
  cases depth with
  | zero => exact .record s notice
  | succ depth =>
    have hagree := agree_any number span depth (s.rank number)
    exact (handOut_any hagree span span notice s hfit trivial (Nat.le_refl _)).2.kept

/-- To any depth, a guarded run keeps the session, and with it the guard. -/
theorem propagate_kept (span depth : Nat) (trigger : Trigger) (connector : String) {s : Session}
    (hfit : Fit number s) :
    Kept number s (propagate (notifyWithin span depth) number trigger connector s).2 :=
  (propagate_reached (agree_any number span depth (s.rank number)) (upkeep_any number) hfit trivial
    (Nat.le_refl _) trigger connector).2.kept

end Canvasflow.Session
