import Canvasflow.Proofs.Connector.Ownership
import Canvasflow.Proofs.Session.Classification

/-!
# Which connectors a change runs

When a shape changes, the propagator for changes goes through the connectors that start at the shape
and runs those that are tracked when their turn comes and that lead to two different shapes. Three
rules have to work together for that: the ends that are watched, the ends by which connectors are
bound, and the order of two bindings, which makes an edge of them. `Fit.changed_runs` says what
comes out. Every connector is run once at most, and one that is tracked as it should be is run
exactly at the source of its edge if its bindings carry different ends. Where they carry the same
end the rules disagree: with two starts the connector is run at the target, too, and with two
finishes it is never run.
-/

namespace Canvasflow.Connector

open Canvasflow.Page

/-- Whether a connector has two bindings that lead to different shapes, and one of its own by which
it starts at a node. -/
def StartsAt (connectorType : String) (bindings : List Binding) (connector node : String) : Prop :=
  (∃ first second, involving connector bindings = [first, second] ∧
    first.target ≠ second.target) ∧
  ∃ binding ∈ bindings, binding.connector = connector ∧ binding.target = node ∧
    binding.type = connectorType ∧ binding.terminal = .start

/-- Whether the connector of an edge that two bindings make leaves a node: the source if the bindings
carry different ends, and either end if both are starts. By two finishes it leaves none, and neither
does a loop. -/
def Edge.Leaves (edge : Edge) (first second : Binding) (node : String) : Prop :=
  edge.source ≠ edge.target ∧
    (first.terminal ≠ second.terminal ∧ edge.source = node ∨
      first.terminal = .start ∧ second.terminal = .start ∧
        (edge.source = node ∨ edge.target = node))

variable {connectorType connector node : String} {bindings : List Binding} {shape : Shape}

theorem Edge.Leaves.touches {edge : Edge} {first second : Binding}
    (h : edge.Leaves first second node) : edge.Touches node := by
  rcases h.2 with ⟨_, hsource⟩ | ⟨_, _, hend⟩
  · exact .inl hsource.symm
  · exact hend.imp Eq.symm Eq.symm

theorem mem_connectorsAt {terminal : Terminal} :
    connector ∈ connectorsAt terminal connectorType bindings node ↔
      ∃ binding ∈ bindings, binding.connector = connector ∧ binding.target = node ∧
        binding.type = connectorType ∧ binding.terminal = terminal := by
  simp only [connectorsAt, boundTo, List.mem_map, List.mem_filter, Bool.and_eq_true,
    decide_eq_true_eq]
  constructor
  · rintro ⟨binding, ⟨⟨hmem, htarget, htype⟩, hterminal⟩, hconnector⟩
    exact ⟨binding, hmem, hconnector, htarget, htype, hterminal⟩
  · rintro ⟨binding, hmem, hconnector, htarget, htype, hterminal⟩
    exact ⟨binding, ⟨⟨hmem, htarget, htype⟩, hterminal⟩, hconnector⟩

/-- A connector that is listed twice at a node is bound to it by both of its bindings. -/
theorem not_sublist_connectorsAt {terminal : Terminal} {first second : Binding}
    (htwo : involving connector bindings = [first, second]) (hne : first.target ≠ second.target) :
    ¬ [connector, connector].Sublist (connectorsAt terminal connectorType bindings node) := by
  intro hsublist
  obtain ⟨pair, hpair, hconnectors⟩ := List.sublist_map_iff.mp hsublist
  have hbound {binding : Binding} (hmem : binding ∈ pair) :
      binding.connector = connector ∧ binding.target = node := by
    have hlisted := (List.mem_filter.mp (hpair.subset hmem)).1
    have htarget := (List.mem_filter.mp hlisted).2
    have hnamed : binding.connector ∈ [connector, connector] :=
      hconnectors ▸ List.mem_map_of_mem hmem
    simp only [Bool.and_eq_true, decide_eq_true_eq] at htarget
    exact ⟨by simpa using hnamed, htarget.1⟩
  have hinvolving : pair.Sublist (involving connector bindings) := by
    have hpage := (hpair.trans List.filter_sublist).trans List.filter_sublist
    have hself : involving connector pair = pair :=
      List.filter_eq_self.mpr fun binding hmem => by simp [(hbound hmem).1]
    exact hself ▸ hpage.filter _
  have hlength : pair.length = 2 := by simpa using (congrArg List.length hconnectors).symm
  obtain rfl : pair = [first, second] := by
    rw [htwo] at hinvolving
    exact hinvolving.eq_of_length hlength
  exact hne ((hbound (by simp)).2.trans (hbound (by simp)).2.symm)

/-- A connector with an edge starts at the nodes that it leaves. -/
theorem startsAt_iff {edge : Edge} (htype : shape.type = connectorType)
    (hedge : Edge.of? connectorType bindings shape = some edge)
    (hguests : guests shape.id bindings = [])
    (hown : ∀ binding ∈ owned shape.id bindings, binding.type = connectorType) :
    StartsAt connectorType bindings shape.id node ↔
      ∃ first second, owned shape.id bindings = [first, second] ∧
        edge.Leaves first second node := by
  obtain ⟨first, second, htwo, rfl⟩ := (Edge.of?_eq_some_iff htype edge).mp hedge
  have hpair := (involving_of_no_guests hguests).symm.trans htwo
  have hbound : (∃ binding ∈ bindings, binding.connector = shape.id ∧ binding.target = node ∧
      binding.type = connectorType ∧ binding.terminal = .start) ↔
      ∃ binding ∈ [first, second], binding.target = node ∧ binding.terminal = .start := by
    rw [← hpair]
    constructor
    · rintro ⟨binding, hmem, hconnector, htarget, _, hterminal⟩
      exact ⟨binding, List.mem_filter.mpr ⟨hmem, by simpa using hconnector⟩, htarget, hterminal⟩
    · rintro ⟨binding, howned, htarget, hterminal⟩
      obtain ⟨hmem, hconnector⟩ := List.mem_filter.mp howned
      exact ⟨binding, hmem, by simpa using hconnector, htarget, hown binding howned, hterminal⟩
  simp only [StartsAt, Edge.Leaves, hbound, htwo, hpair, List.cons.injEq, and_true, ↓existsAndEq]
  cases hfirst : first.terminal <;> cases hsecond : second.terminal
  case start.start | start.finish | finish.finish => simp [Edge.joining, hfirst, hsecond]
  case finish.start =>
    -- Only a finish that comes first turns the edge around.
    simp only [Edge.joining, hfirst, hsecond, if_true, List.mem_cons, List.not_mem_nil, or_false,
      exists_eq_or_imp, exists_eq_left, reduceCtorEq, and_false, false_or, and_true, ne_eq,
      not_false_eq_true, true_and, false_and]
    exact and_congr_left' ⟨Ne.symm, Ne.symm⟩

end Canvasflow.Connector

namespace Canvasflow.Session

open Canvasflow.Connector Canvasflow.Geometry Canvasflow.Page Canvasflow.Propagation

/-! ## Going through a list of connectors -/

section Calls

variable (notify : Notify) (number : Nat) (trigger : Trigger) (fires : Session → String → Bool)

/-- The connectors that are run when a list of them is gone through, in the order of their runs. -/
def called : List String → Session → List String
  | [], _ => []
  | connector :: rest, s =>
    if (s.engineAt number).tracks trigger connector && fires s connector then
      connector :: called rest (propagate notify number trigger connector s).2
    else called rest s

/-- The session when the turn of a connector of a list has come. -/
def turn (connectors : List String) (connector : String) (s : Session) : Session :=
  runEach notify number trigger fires (connectors.takeWhile (· ≠ connector)) s

/-- What going through a list comes to is the runs of the connectors that are run. -/
theorem runEach_eq_foldl (connectors : List String) (s : Session) :
    runEach notify number trigger fires connectors s =
      (called notify number trigger fires connectors s).foldl
        (fun t connector => (propagate notify number trigger connector t).2) s := by
  induction connectors generalizing s with
  | nil => rfl
  | cons connector rest ih =>
    rw [runEach, List.foldl_cons, ← runEach, ih, called]
    split
    · rw [List.foldl_cons]
    · rfl

variable {notify number trigger fires} {P : Session → Prop} {test : String → Bool}
  {connector first : String} {rest : List String} {s : Session}

theorem turn_cons_self :
    turn notify number trigger fires (connector :: rest) connector s = s := by
  simp [turn, runEach]

theorem turn_cons_of_ne (h : first ≠ connector) :
    turn notify number trigger fires (first :: rest) connector s =
      turn notify number trigger fires rest connector
        (if (s.engineAt number).tracks trigger first && fires s first then
          (propagate notify number trigger first s).2 else s) := by
  simp [turn, runEach, h]

variable
  (hruns : ∀ connector s, P s → P (propagate notify number trigger connector s).2)
  (hfires : ∀ s, P s → ∀ connector, fires s connector = test connector)

include hruns hfires

/-- Where runs leave the test alone, what is run are some of those that pass it, in their order. -/
theorem called_sublist (connectors : List String) (hs : P s) :
    (called notify number trigger fires connectors s).Sublist (connectors.filter test) := by
  induction connectors generalizing s with
  | nil => exact .slnil
  | cons connector rest ih =>
    unfold called
    split
    · rename_i hrun
      rw [Bool.and_eq_true, hfires s hs] at hrun
      rw [List.filter_cons_of_pos hrun.2]
      exact (ih (hruns connector s hs)).cons_cons connector
    · exact (ih hs).trans ((List.sublist_cons_self connector rest).filter test)

/-- A connector of a list that names it once is run if it passes the test and is tracked when its
turn comes. -/
theorem mem_called_iff {connectors : List String} (hs : P s)
    (honce : (connectors.filter test).Nodup) :
    connector ∈ called notify number trigger fires connectors s ↔
      connector ∈ connectors ∧ test connector = true ∧
        Tracks number trigger connector
          (turn notify number trigger fires connectors connector s) := by
  have hpassed {rest : List String} {t : Session} (ht : P t)
      (hmem : connector ∈ called notify number trigger fires rest t) :
      connector ∈ rest.filter test := (called_sublist hruns hfires rest ht).subset hmem
  induction connectors generalizing s with
  | nil => simp [called]
  | cons first rest ih =>
    have hrest : (rest.filter test).Nodup :=
      honce.sublist ((List.sublist_cons_self first rest).filter test)
    by_cases heq : first = connector
    · subst heq
      -- It is its turn, and if it passes the test it has no other one.
      have hlast (hpass : test first = true) : first ∉ rest.filter test := by
        rw [List.filter_cons_of_pos hpass, List.nodup_cons] at honce
        exact honce.1
      rw [turn_cons_self]
      unfold called
      split
      · rename_i hrun
        rw [Bool.and_eq_true, hfires s hs] at hrun
        simpa [Tracks] using hrun.symm
      · rename_i hskip
        rw [Bool.and_eq_true, hfires s hs, not_and'] at hskip
        refine iff_of_false (fun hmem => ?_) fun h => hskip h.2.1 h.2.2
        have hlater := hpassed hs hmem
        exact hlast (List.mem_filter.mp hlater).2 hlater
    · rw [turn_cons_of_ne heq]
      unfold called
      split
      · simpa [Ne.symm heq] using ih (hruns first s hs) hrest
      · simpa [Ne.symm heq] using ih hs hrest

end Calls

/-! ## What a change of a node runs -/

/-- The connectors that are run on a change of a node, in the order of their runs. -/
def fired (notify : Notify) (number : Nat) (node : String) (s : Session) : List String :=
  if (s.engineAt number).watches .change node then
    called notify number .change joinsTwo (s.connectorsFrom (s.engineAt number) node) s
  else []

variable {number span depth : Nat} {node connector : String} {shape : Shape} {s t : Session}

/-- What a propagator does after a change of a shape is to run connectors. -/
theorem afterChange_eq_foldl (notify : Notify) (number : Nat) (shape : Shape) (s : Session) :
    let noted := s.note (.shapeChanged number .change shape.id)
    afterChange notify number .change shape s =
      (fired notify number shape.id noted).foldl
        (fun t connector => (propagate notify number .change connector t).2) noted := by
  intro noted
  change runAffected notify number .change shape noted = _
  unfold runAffected fired
  simp only
  split
  · exact runEach_eq_foldl notify number .change joinsTwo _ noted
  · rfl

theorem joinsTwo_iff : s.joinsTwo connector = true ↔
    ∃ first second, involving connector s.document.pageBindings = [first, second] ∧
      first.target ≠ second.target := by
  unfold joinsTwo
  split
  · rename_i first second htwo
    simp [htwo]
  · rename_i hnot
    refine iff_of_false Bool.false_ne_true ?_
    rintro ⟨first, second, htwo, _⟩
    exact hnot first second htwo

/-- Among the connectors that start at a node, those that lead to two shapes are named once. -/
theorem nodup_connectorsFrom (s : Session) (engine : Engine) (node : String) :
    ((s.connectorsFrom engine node).filter s.joinsTwo).Nodup := by
  refine List.nodup_iff_sublist.mpr fun connector hsublist => ?_
  have hjoins : s.joinsTwo connector = true :=
    (List.mem_filter.mp (hsublist.subset List.mem_cons_self)).2
  obtain ⟨first, second, htwo, hne⟩ := joinsTwo_iff.mp hjoins
  exact not_sublist_connectorsAt htwo hne (hsublist.trans List.filter_sublist)

theorem startsAt_iff_mem {engine : Engine} :
    StartsAt engine.options.connectorType s.document.pageBindings connector node ↔
      connector ∈ s.connectorsFrom engine node ∧ s.joinsTwo connector = true := by
  rw [joinsTwo_iff, connectorsFrom, mem_connectorsAt, and_comm, StartsAt]

/-- Runs leave it as it is which connectors lead to two shapes. -/
theorem Kept.joinsTwo_eq (h : Kept number s t) (connector : String) :
    t.joinsTwo connector = s.joinsTwo connector := by
  simp only [joinsTwo, Document.pageBindings, h.bindings]

namespace Fit

/-- A connector is run on a change of a node if the node is watched, the connector starts there, and
it is tracked when its turn comes. -/
theorem mem_fired_iff (h : Fit number s) (span depth : Nat) :
    connector ∈ fired (notifyWithin span depth) number node s ↔
      (s.engineAt number).watches .change node = true ∧
      StartsAt (s.engineAt number).options.connectorType s.document.pageBindings connector node ∧
      Tracks number .change connector (turn (notifyWithin span depth) number .change joinsTwo
        (s.connectorsFrom (s.engineAt number) node) connector s) := by
  unfold fired
  split
  · rename_i hwatches
    rw [mem_called_iff (P := Kept number s) (fun connector t hkept =>
        hkept.trans (propagate_kept span depth .change connector (hkept.fit h)))
      (fun t hkept => hkept.joinsTwo_eq) (.refl number s) (nodup_connectorsFrom s _ node),
      startsAt_iff_mem]
    tauto
  · simp [*]

theorem fired_nodup (h : Fit number s) (span depth : Nat) :
    (fired (notifyWithin span depth) number node s).Nodup := by
  unfold fired
  split
  · exact (nodup_connectorsFrom s _ node).sublist (called_sublist (P := Kept number s)
      (fun connector t hkept =>
        hkept.trans (propagate_kept span depth .change connector (hkept.fit h)))
      (fun t hkept => hkept.joinsTwo_eq) _ (.refl number s))
  · exact List.nodup_nil

/-- While connectors take their turns, one to which no binding leads stays tracked or not. -/
theorem tracks_turn_iff (h : Fit number s) (hdepth : s.rank number ≤ depth)
    (hfree : s.document.Free connector) (hclassified : Classified number .change connector s)
    (connectors : List String) :
    Tracks number .change connector
        (turn (notifyWithin span depth) number .change joinsTwo connectors connector s) ↔
      Tracks number .change connector s := by
  have hclosed :=
    closed_course number connector ((s.document.shape? connector).map Shape.face) [.change]
  have hcourse : Course number connector ((s.document.shape? connector).map Shape.face) [.change] s :=
    ⟨rfl, hfree, by simpa using hclassified⟩
  obtain ⟨hkept, hgood, _⟩ := (runEach_twin (hclosed.agree span hdepth) hclosed.upkeep .change
    joinsTwo (connectors.takeWhile (· ≠ connector)) s h hcourse (Nat.le_refl _)).2
  rw [← turn] at hkept hgood
  rw [(hgood.classified .change (by simp)).tracks_iff_eligible rfl,
    hclassified.tracks_iff_eligible rfl, hkept.triggers,
    eligible_congr (edge?_congr hgood.face hkept.bindings hkept.options)]

/-- A connector with an edge owns bindings of its own type. -/
theorem type_of_owned (h : Fit number s) (hshape : s.document.shape? connector = some shape)
    (htype : shape.type = (s.engineAt number).options.connectorType) {binding : Binding}
    (hbinding : binding ∈ owned connector s.document.pageBindings) :
    binding.type = (s.engineAt number).options.connectorType := by
  obtain ⟨hmem, howner⟩ := List.mem_filter.mp hbinding
  obtain ⟨station, hstation, hstationType⟩ := h.sound.owned hmem
  rw [of_decide_eq_true howner, Document.find_plan, hshape, Option.map_some,
    Option.some.injEq] at hstation
  subst hstation
  exact (h.sound.typed hmem).trans (hstationType.symm.trans htype)

/-- A connector to which no binding leads starts at the nodes that it leaves. -/
theorem startsAt_iff_edge (h : Fit number s) (hfree : s.document.Free connector) {edge : Edge}
    (hedge : s.edge? (s.engineAt number) connector = some edge) :
    StartsAt (s.engineAt number).options.connectorType s.document.pageBindings connector node ↔
      ∃ first second, owned connector s.document.pageBindings = [first, second] ∧
        edge.Leaves first second node := by
  obtain ⟨shape, hshape, hresolved⟩ := Option.bind_eq_some_iff.mp hedge
  have htype := (Edge.of?_some hresolved).1
  have hid := h.sound.id_eq hshape
  subst hid
  have hguests : guests shape.id s.document.pageBindings = [] :=
    List.filter_eq_nil_iff.mpr fun binding hbinding => by
      simpa using fun _ => hfree binding hbinding
  exact startsAt_iff htype hresolved hguests fun binding => h.type_of_owned hshape htype

/-- What a change of a shape makes the propagator for changes do is to run some connectors, each of
them once. A connector is among them if the shape is watched, the connector starts there, and it is
tracked when its turn comes. One to which no binding leads and that is tracked as it should be is
among them if it is tracked and leaves the shape by its two bindings. -/
theorem changed_runs (h : Fit number s) (span : Nat) (hdepth : s.rank number ≤ depth)
    (shape : Shape) :
    let notify := notifyWithin span depth
    let engine := s.engineAt number
    let noted := s.note (.shapeChanged number .change shape.id)
    let runs := fired notify number shape.id noted
    afterChange notify number .change shape s =
      runs.foldl (fun t connector => (propagate notify number .change connector t).2) noted ∧
    runs.Nodup ∧
    (∀ connector, connector ∈ runs ↔ engine.watches .change shape.id = true ∧
      StartsAt engine.options.connectorType s.document.pageBindings connector shape.id ∧
      Tracks number .change connector (turn notify number .change joinsTwo
        (noted.connectorsFrom engine shape.id) connector noted)) ∧
    ∀ connector, s.document.Free connector → Classified number .change connector s →
      (connector ∈ runs ↔ Tracks number .change connector s ∧ ∃ edge first second,
        s.edge? engine connector = some edge ∧
        owned connector s.document.pageBindings = [first, second] ∧
        edge.Leaves first second shape.id) := by
  intro notify engine noted runs
  have hkept : Kept number s noted := .note s fun _ => nofun
  have hfit : Fit number noted := hkept.fit h
  refine ⟨afterChange_eq_foldl notify number shape s, hfit.fired_nodup span depth,
    fun connector => hfit.mem_fired_iff span depth, fun connector hfree hclassified => ?_⟩
  have hnoted : Classified number .change connector noted := hclassified.congr rfl rfl rfl
  rw [hfit.mem_fired_iff span depth, hfit.tracks_turn_iff (hkept.rank_of_shapes rfl ▸ hdepth) hfree
    hnoted]
  constructor
  · rintro ⟨_, hstarts, htracks⟩
    obtain ⟨edge, hedge, _⟩ := hnoted.eligible htracks
    obtain ⟨first, second, howned, hleaves⟩ := (hfit.startsAt_iff_edge hfree hedge).mp hstarts
    exact ⟨htracks, edge, first, second, hedge, howned, hleaves⟩
  · rintro ⟨htracks, edge, first, second, hedge, howned, hleaves⟩
    -- The ends of the edge of a connector that is tracked as it should be are watched.
    exact ⟨(hclassified.followed htracks edge hedge).watches hleaves.touches,
      (hfit.startsAt_iff_edge hfree hedge).mpr ⟨first, second, howned, hleaves⟩, htracks⟩

end Fit

/-- Two shapes, and a connector that is bound to both of them by the same end. -/
def boundBy (terminal : Terminal) : List Command :=
  [.create { type := "geo", id := "a" }, .create { type := "geo", id := "b" },
    .create { type := "arrow", id := "c",
              props := [("text", .str "() { return {x : from.x + 1}; }")] },
    .bind "c" "a" terminal "1", .bind "c" "b" terminal "2"]

/-- What an engine that was started before makes of them. -/
def pairedBy (terminal : Terminal) : Session :=
  ((blank .defaults).perform (.engine Trigger.all)).2.after (boundBy terminal)

theorem pairedBy_tracked (terminal : Terminal) :
    Fit 0 (pairedBy terminal) ∧ (pairedBy terminal).document.Free "c" ∧
      WellTracked 0 "c" (pairedBy terminal) := by
  have hstarted : Started 0 Trigger.all (blank .defaults)
      ((blank .defaults).perform (.engine Trigger.all)).2 :=
    started_of_isOk rfl rfl (.empty _) (by decide +kernel)
  have hcommands : ∀ command ∈ boundBy terminal, command.isHost = true := by
    cases terminal <;> decide
  have hfree : ∀ earlier ∈ (boundBy terminal).inits,
      (((blank .defaults).perform (.engine Trigger.all)).2.after earlier).document.Free "c" := by
    cases terminal <;> decide +kernel
  have hheard : ∀ step ∈ (pairedBy terminal).trail, step ≠ .failed 0 .changed (some "c") := by
    cases terminal <;> decide +kernel
  exact ⟨(after_hosted hstarted.fit hcommands).1, hfree _ (by simp),
    hstarted.wellTracked_after (by decide) hcommands
      (fun earlier hearlier => hfree earlier ((List.mem_inits earlier _).mpr hearlier))
      (not_since_of_forall hheard)⟩

/-- A connector that is bound by two starts is run on a change of its target, and one that is bound
by two finishes is not run on a change of its source, though it is tracked. -/
theorem runs_at_target_and_not_at_source :
    let runs (terminal : Terminal) := fired
      (notifyWithin 0 ((pairedBy terminal).rank 0)) 0 "b"
      ((pairedBy terminal).note (.shapeChanged 0 .change "b"))
    let edge? (terminal : Terminal) :=
      (pairedBy terminal).edge? ((pairedBy terminal).engineAt 0) "c"
    (edge? .start = some ⟨"c", "a", "b", "() { return {x : from.x + 1}; }"⟩ ∧ "c" ∈ runs .start) ∧
    edge? .finish = some ⟨"c", "b", "a", "() { return {x : from.x + 1}; }"⟩ ∧
      Tracks 0 .change "c" (pairedBy .finish) ∧ "c" ∉ runs .finish := by
  intro runs edge?
  have hpage (terminal : Terminal) : ((pairedBy terminal).document.shape? "b").isSome := by
    cases terminal <;> decide +kernel
  have howned (terminal : Terminal) : owned "c" (pairedBy terminal).document.pageBindings =
      [⟨"1", "c", "a", terminal, "arrow"⟩, ⟨"2", "c", "b", terminal, "arrow"⟩] := by
    cases terminal <;> decide +kernel
  have hedge : edge? .start = some ⟨"c", "a", "b", "() { return {x : from.x + 1}; }"⟩ := by
    decide +kernel
  have hruns (terminal : Terminal) : "c" ∈ runs terminal ↔ terminal = .start := by
    obtain ⟨hfit, hfree, hwell⟩ := pairedBy_tracked terminal
    obtain ⟨shape, hshape⟩ := Option.isSome_iff_exists.mp (hpage terminal)
    obtain ⟨_, _, _, hexact⟩ := hfit.changed_runs 0 (Nat.le_refl _) shape
    rw [hfit.sound.id_eq hshape] at hexact
    refine (hexact "c" hfree (hwell .change)).trans ⟨?_, ?_⟩
    · rintro ⟨_, _, first, second, _, hpair, hleaves⟩
      rw [howned terminal] at hpair
      cases hpair
      exact (hleaves.2.resolve_left fun hdifferent => hdifferent.1 rfl).1
    · rintro rfl
      exact ⟨by decide +kernel, _, _, _, hedge, howned .start, by decide,
        .inr ⟨rfl, rfl, .inr rfl⟩⟩
  exact ⟨⟨hedge, (hruns .start).mpr rfl⟩, by decide +kernel, by decide +kernel,
    fun hmem => by cases (hruns .finish).mp hmem⟩

end Canvasflow.Session
