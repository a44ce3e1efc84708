import Canvasflow.Proofs.Session.Rank

/-!
# Cascades

What holds through everything that an engine sets off when it runs a connector. A change of the
page is told before the run that made it goes on, and whoever is told may run further connectors,
so what is said of a run depends on what is said of notices. `Agree` says it of notices below a
rank: two ways of telling do the same, keep the session and a property of it, and do not raise the
rank. `Upkeep` says it of the small steps between the notices. `propagate_reached` concludes that a
guarded run is the same under both ways of telling, and keeps the session and the property. Since a
run tells of changes only below the rank from which it began, the ways of telling need to agree
only there.
-/

namespace Canvasflow.Program

/-- A patch that is read from fields names the shape that the fields name. -/
theorem unpackFields_id {heap : Heap} {fields : Entries Value} {patch : Page.Patch} {id : String}
    (hid : Entries.find? "id" fields = some (.str id)) (h : unpackFields heap fields = .ok patch) :
    patch.id = id := by
  simp only [unpackFields, unpackFieldsWithin, identity, hid, bind_eq_ok_iff] at h
  obtain ⟨found, hfound, type, _, x, _, y, _, rotation, _, props, _, metadata, _, hpatch⟩ := h
  cases hpatch
  split at hfound
  · cases hfound
  · cases hfound
    rfl

end Canvasflow.Program

namespace Canvasflow.Session

open Canvasflow.Connector Canvasflow.Geometry Canvasflow.Page Canvasflow.Program
open Canvasflow.Propagation

/-- What a program returns patches the target. -/
theorem resultPatch_id {heap : Heap} {snapshot result : Value} {target : Shape} {patch : Patch}
    (h : resultPatch heap snapshot target result = .ok (some patch)) : patch.id = target.id := by
  unfold resultPatch at h
  split at h
  · cases h
  · simp only at h
    split at h
    · rename_i hunpack
      cases h
      refine unpackFields_id ?_ hunpack
      rw [Entries.find?_set_of_ne (by decide), Entries.find?_set_self]
    · cases h
  · cases h

theorem execute_id {s : Session} {engine : Engine} {program : Compiled} {source target : Shape}
    {patch : Patch} {lines : Array String}
    (h : s.execute engine program source target = (.ok (some patch), lines)) :
    patch.id = target.id := by
  have hfirst := congrArg Prod.fst h
  simp only [execute] at hfirst
  split at hfirst
  · exact resultPatch_id hfirst
  · cases hfirst

/-- An edge leads where a binding of the page leads. -/
theorem edge_target {s : Session} {engine : Engine} {connector : String} {edge : Edge}
    (h : s.edge? engine connector = some edge) :
    ∃ binding ∈ s.document.pageBindings, binding.target = edge.target := by
  obtain ⟨shape, _, hedge⟩ := Option.bind_eq_some_iff.mp h
  unfold edgeOf Edge.of? at hedge
  split at hedge
  · split at hedge
    · rename_i first second hpair
      -- The two bindings of the edge are all those of the page that involve the connector.
      have hmem {binding : Binding} (hbinding : binding ∈ [first, second]) :
          binding ∈ s.document.pageBindings := by
        rw [← hpair] at hbinding
        exact (List.mem_filter.mp hbinding).1
      split at hedge <;> cases hedge
      · exact ⟨first, hmem (by simp), rfl⟩
      · exact ⟨second, hmem (by simp), rfl⟩
    · cases hedge
  · cases hedge

/-- Looking up a program changes at most the cache of the propagator. -/
theorem run_lookUpProgram (number : Nat) (trigger : Trigger) (connector : String) (s : Session) :
    ∃ program? t, (lookUpProgram number trigger connector).run s = (.ok program?, t) ∧
      (t = s ∨ ∃ cache, t = s.modifyPropagator number trigger fun propagator =>
        { propagator with cache := cache }) := by
  simp only [lookUpProgram, Act.run_bind, Act.run_get]
  cases (s.engineAt number).propagator? trigger with
  | none => exact ⟨none, s, rfl, .inl rfl⟩
  | some propagator => exact ⟨_, _, rfl, .inr ⟨_, rfl⟩⟩

/-! ## What is assumed of notices and of small steps -/

/-- Whether a step says that a propagator was told of a change. -/
def Step.IsCall : Step → Prop
  | .shapeChanged .. | .connectorChanged .. => True
  | .running .. | .failed .. => False

/-- A session reached from another one with a property, and with a rank that is not above the given
one. -/
structure Reached (number : Nat) (Good : Session → Prop) (top : Nat) (s t : Session) : Prop where
  kept : Kept number s t
  good : Good t
  low : t.rank number ≤ top

/-- Two ways of telling that, below a rank, do the same after a change of a shape of which
something is due, and keep the session, its rank, and the property that is wanted. -/
structure Agree (number : Nat) (Good : Session → Prop) (Due : Shape → Session → Prop)
    (first second : Notify) (bound : Nat) : Prop where
  same : ∀ {shape : Shape} {s : Session}, Fit number s → s.rank number < bound → Due shape s →
    second (.changed shape) s = first (.changed shape) s
  reached : ∀ {shape : Shape} {s : Session}, Fit number s → s.rank number < bound → Due shape s →
    Reached number Good (s.rank number) s (first (.changed shape) s)

/-- A property that the small steps of a run keep, and what is due between a change of a shape and
its notice. -/
structure Upkeep (number : Nat) (Good : Session → Prop) (Due : Shape → Session → Prop) : Prop where
  called : ∀ {s : Session} {step : Step}, Good s → step.IsCall → Good (s.note step)
  guarded : ∀ {s : Session} (guard : Guard), Fit number s → Good s → Good (s.withGuard number guard)
  cached : ∀ {s : Session} (trigger : Trigger) {change : Propagator → Propagator},
    Fit number s → Good s → (∀ propagator, (change propagator).trigger = propagator.trigger) →
      (∀ propagator, (change propagator).listeners = propagator.listeners) →
        Good (s.modifyPropagator number trigger change)
  logged : ∀ {s : Session} (log : Array String), Good s → Good { s with log := log }
  marked : ∀ {s : Session} (id : String) (marker : Marker), Fit number s → Good s →
    Good (s.withDocument (s.document.mark id marker))
  written : ∀ {s : Session} {patch : Patch} {shape : Shape} {document : Document},
    Fit number s → Good s →
      (∃ binding ∈ s.document.pageBindings, binding.target = patch.id) →
        s.document.update patch = .ok (shape, document) → Due shape (s.withDocument document)
  coloured : ∀ {s : Session} {id : String} {marker : Marker} {old shape : Shape} {patch : Patch}
    {document : Document}, Fit number s → Good s → s.document.shape? id = some old →
      s.document.recoloring? old marker = some patch →
        s.document.update patch = .ok (shape, document) → Due shape (s.withDocument document)

namespace Reached

variable {number : Nat} {Good : Session → Prop} {top : Nat} {s t u : Session}

theorem refl (hgood : Good s) (hlow : s.rank number ≤ top) : Reached number Good top s s :=
  ⟨.refl number s, hgood, hlow⟩

/-- What is reached from a session that was reached. -/
theorem trans (hst : Reached number Good top s t)
    (htu : Reached number Good (t.rank number) t u) : Reached number Good top s u :=
  ⟨hst.kept.trans htu.kept, htu.good, Nat.le_trans htu.low hst.low⟩

/-- A small step goes on from what was reached. -/
theorem step {Good' : Session → Prop} (h : Reached number Good top s t) (hkept : Kept number t u)
    (hgood : Good' u) (hshapes : u.document.shapes = t.document.shapes) :
    Reached number Good' top s u :=
  ⟨h.kept.trans hkept, hgood, hkept.rank_of_shapes hshapes ▸ h.low⟩

end Reached

/-! ## Runs -/

section Runs

variable {number : Nat} {Good : Session → Prop} {Due : Shape → Session → Prop}
  {first second : Notify} {bound : Nat} {s : Session}

theorem updateShape_reached (hagree : Agree number Good Due first second bound)
    (hfit : Fit number s) (hgood : Good s) (patch : Patch) {top : Nat}
    (hlow : s.rank number ≤ top)
    (hdue : ∀ {shape : Shape} {document : Document},
      s.document.update patch = .ok (shape, document) →
        Due shape (s.withDocument document) ∧ (s.withDocument document).rank number < bound ∧
          (s.withDocument document).rank number ≤ top) :
    (updateShape second patch).run s = (updateShape first patch).run s ∧
      Reached number Good top s ((updateShape first patch).run s).2 := by
  simp only [run_updateShape]
  cases hupdate : s.document.update patch with
  | error fault => exact ⟨rfl, .refl hgood hlow⟩
  | ok pair =>
    obtain ⟨shape, document⟩ := pair
    obtain ⟨hshape, hbound, htop⟩ := hdue hupdate
    have hkept : Kept number s (s.withDocument document) := .update hupdate
    have hreached := hagree.reached (hkept.fit hfit) hbound hshape
    refine ⟨by simp only [hagree.same (hkept.fit hfit) hbound hshape],
      hkept.trans hreached.kept, hreached.good, Nat.le_trans hreached.low htop⟩

/-- Setting a marker, where the change of colour is told below the rank. -/
theorem tryMark_reached (hagree : Agree number Good Due first second bound)
    (hupkeep : Upkeep number Good Due) (hfit : Fit number s) (hgood : Good s) {connector : String}
    {marker : Marker} {top : Nat} (hlow : s.rank number ≤ top)
    (hcolour : ∀ {old shape : Shape} {patch : Patch} {document : Document},
      s.document.shape? connector = some old → s.document.recoloring? old marker = some patch →
        (s.document.mark connector marker).update patch = .ok (shape, document) →
          (s.withDocument document).rank number < bound ∧
            (s.withDocument document).rank number ≤ top) :
    tryMark second connector marker s = tryMark first connector marker s ∧
      Reached number Good top s (tryMark first connector marker s) := by
  have hstart : Reached number Good top s s := .refl hgood hlow
  simp only [tryMark, attempt_setMarker]
  cases hshape : s.document.shape? connector with
  | none => exact ⟨rfl, hstart⟩
  | some old =>
    have hmarked := hstart.step (.mark s connector marker)
      (hupkeep.marked connector marker hfit hgood) rfl
    cases hpatch : s.document.recoloring? old marker with
    | none => simpa only [hpatch, true_and] using hmarked
    | some patch =>
      simp only [hpatch]
      obtain ⟨hsame, hreached⟩ := updateShape_reached hagree (hmarked.kept.fit hfit) hmarked.good
        patch hmarked.low fun hupdate =>
          ⟨hupkeep.coloured (hmarked.kept.fit hfit) hmarked.good hshape hpatch hupdate,
            hcolour hshape hpatch hupdate⟩
      exact ⟨by rw [hsame], hmarked.kept.trans hreached.kept, hreached.good, hreached.low⟩

/-- Setting a marker during a run. -/
theorem tryMark_running (hagree : Agree number Good Due first second bound)
    (hupkeep : Upkeep number Good Due) (hfit : Fit number s) (hgood : Good s)
    (hceiling : s.ceiling number < bound) (connector : String) (marker : Marker) :
    tryMark second connector marker s = tryMark first connector marker s ∧
      Reached number Good (s.ceiling number) s (tryMark first connector marker s) := by
  refine tryMark_reached hagree hupkeep hfit hgood (rank_le_ceiling number s) ?_
  intro old shape patch document hshape hpatch hupdate
  have hkept : Kept number s (s.withDocument document) :=
    (Kept.mark s connector marker).trans (.update hupdate)
  have hle := rank_le_ceiling number (s.withDocument document)
  rw [hkept.ceiling_eq] at hle
  exact ⟨by omega, hle⟩

/-- Setting the marker of a connector that a full guard refuses. -/
theorem tryMark_refused (hagree : Agree number Good Due first second bound)
    (hupkeep : Upkeep number Good Due) (hfit : Fit number s) (hgood : Good s)
    (hbound : s.rank number ≤ bound)
    (hfull : (s.engineAt number).guard.limit.toNat ≤ (s.engineAt number).guard.stack.length)
    (connector : String) :
    tryMark second connector .error s = tryMark first connector .error s ∧
      Reached number Good (s.rank number) s (tryMark first connector .error s) := by
  refine tryMark_reached hagree hupkeep hfit hgood (Nat.le_refl _) ?_
  intro old shape patch document hshape hpatch hupdate
  have hlt := rank_coloured (s := s.withDocument (s.document.mark connector .error))
    ((Kept.mark s connector .error).fit hfit) hfull hshape hpatch hupdate
  change _ < s.rank number at hlt
  have hle : (s.withDocument document).rank number < s.rank number := hlt
  exact ⟨by omega, by omega⟩

/-- The run of an edge, under a guard that leaves every change below the rank. -/
theorem runEdge_reached (hagree : Agree number Good Due first second bound)
    (hupkeep : Upkeep number Good Due) (hfit : Fit number s) (hgood : Good s)
    (hceiling : s.ceiling number < bound) (trigger : Trigger) {edge : Edge}
    (htarget : ∃ binding ∈ s.document.pageBindings, binding.target = edge.target) :
    (runEdge second number trigger edge).run s = (runEdge first number trigger edge).run s ∧
      Reached number Good (s.ceiling number) s ((runEdge first number trigger edge).run s).2 := by
  have hstart : Reached number Good (s.ceiling number) s s := .refl hgood (rank_le_ceiling number s)
  simp only [runEdge, Act.run_bind, Act.run_get]
  cases hsource : s.document.shape? edge.source with
  | none => exact ⟨rfl, hstart⟩
  | some source =>
    cases hshape : s.document.shape? edge.target with
    | none => exact ⟨rfl, hstart⟩
    | some target =>
      obtain ⟨program?, t, hlookUp, hcache⟩ := run_lookUpProgram number trigger edge.connector s
      have ht : Reached number Good (s.ceiling number) s t ∧ t.document = s.document := by
        rcases hcache with rfl | ⟨cache, rfl⟩
        · exact ⟨hstart, rfl⟩
        · exact ⟨hstart.step (.modifyPropagator hfit.present trigger fun _ => rfl)
            (hupkeep.cached trigger hfit hgood (fun _ => rfl) fun _ => rfl) rfl, rfl⟩
      obtain ⟨hreached, hdocument⟩ := ht
      simp only [hlookUp, Act.run_bind]
      cases program? with
      | none => exact ⟨rfl, hreached⟩
      | some program =>
        simp only [Act.run_bind, Act.run_get, Act.run_change]
        rcases hexecute : t.execute (t.engineAt number) program source target with ⟨outcome, lines⟩
        have hlogged : Reached number Good (s.ceiling number) s { t with log := t.log ++ lines } :=
          hreached.step (.log t _) (hupkeep.logged _ hreached.good) rfl
        rcases outcome with fault | ⟨_ | patch⟩
        · exact ⟨rfl, hlogged⟩
        · exact ⟨rfl, hlogged⟩
        · -- Whatever the program returned, the patch names the target.
          have hid : patch.id = edge.target := (execute_id hexecute).trans (hfit.sound.id_eq hshape)
          have hbinding : ∃ binding ∈ t.document.pageBindings, binding.target = patch.id := by
            rwa [hdocument, hid]
          have hwritten := updateShape_reached hagree (hlogged.kept.fit hfit) hlogged.good patch
            hlogged.low fun {shape document} hupdate => by
              have hkept : Kept number s _ := hlogged.kept.trans (.update hupdate)
              have hle := rank_le_ceiling number
                (({ t with log := t.log ++ lines } : Session).withDocument document)
              rw [hkept.ceiling_eq] at hle
              exact ⟨hupkeep.written (hlogged.kept.fit hfit) hlogged.good hbinding hupdate,
                by omega, hle⟩
          obtain ⟨hsame, hreached⟩ := hwritten
          simp only [Act.run_bind, hsame, true_and]
          have hall : Reached number Good (s.ceiling number) s
              ((updateShape first patch).run { t with log := t.log ++ lines }).2 :=
            ⟨hlogged.kept.trans hreached.kept, hreached.good, hreached.low⟩
          rcases hrun : (updateShape first patch).run { t with log := t.log ++ lines } with
            ⟨_ | _, u⟩ <;> (rw [hrun] at hall; exact hall)

/-- A connector that is running, or has no edge, is not run. -/
theorem propagate_idle (notify : Notify) (trigger : Trigger) {connector : String}
    (h : (s.engineAt number).guard.isRunning connector = true ∨
      s.edge? (s.engineAt number) connector = none) :
    propagate notify number trigger connector s = (false, s) := by
  unfold propagate
  rcases h with hrunning | hedge
  · simp only [hrunning, if_true]
  · simp only [hedge, ite_self]

/-- A connector that the guard refuses is marked. -/
theorem propagate_refused (notify : Notify) (trigger : Trigger) {connector : String} {edge : Edge}
    {fault : DepthFault} (hidle : (s.engineAt number).guard.isRunning connector = false)
    (hedge : s.edge? (s.engineAt number) connector = some edge)
    (henter : (s.engineAt number).guard.enter connector = .error fault) :
    propagate notify number trigger connector s = (false, tryMark notify connector .error s) := by
  unfold propagate
  simp only [hidle, hedge, henter, Bool.false_eq_true, if_false]

/-- A connector that the guard lets run is run, and marked by the outcome. -/
theorem propagate_entered (notify : Notify) (trigger : Trigger) {connector : String} {edge : Edge}
    {entered : Guard} (hidle : (s.engineAt number).guard.isRunning connector = false)
    (hedge : s.edge? (s.engineAt number) connector = some edge)
    (henter : (s.engineAt number).guard.enter connector = .ok entered) :
    propagate notify number trigger connector s =
      let run := (runEdge notify number trigger edge).run (s.withGuard number entered)
      let marked := tryMark notify connector (if run.1.isOk then .ok else .error) run.2
      (run.1.isOk, marked.withGuard number ((marked.engineAt number).guard.exit connector)) := by
  unfold propagate
  simp only [hidle, hedge, henter, Bool.false_eq_true, if_false]
  rfl

/-- A guarded run is the same under both ways of telling, and keeps the session and the property. -/
theorem propagate_reached (hagree : Agree number Good Due first second bound)
    (hupkeep : Upkeep number Good Due) (hfit : Fit number s) (hgood : Good s)
    (hbound : s.rank number ≤ bound) (trigger : Trigger) (connector : String) :
    propagate second number trigger connector s = propagate first number trigger connector s ∧
      Reached number Good (s.rank number) s (propagate first number trigger connector s).2 := by
  have hstart : Reached number Good (s.rank number) s s := .refl hgood (Nat.le_refl _)
  cases hidle : (s.engineAt number).guard.isRunning connector with
  | true =>
    rw [propagate_idle first trigger (.inl hidle), propagate_idle second trigger (.inl hidle)]
    exact ⟨rfl, hstart⟩
  | false =>
    cases hedge : s.edge? (s.engineAt number) connector with
    | none =>
      rw [propagate_idle first trigger (.inr hedge), propagate_idle second trigger (.inr hedge)]
      exact ⟨rfl, hstart⟩
    | some edge =>
      cases henter : (s.engineAt number).guard.enter connector with
      | error fault =>
        rw [propagate_refused first trigger hidle hedge henter,
          propagate_refused second trigger hidle hedge henter]
        obtain ⟨hsame, hreached⟩ := tryMark_refused hagree hupkeep hfit hgood hbound
          (Guard.enter_error henter) connector
        exact ⟨by rw [hsame], hreached⟩
      | ok entered =>
        rw [propagate_entered first trigger hidle hedge henter,
          propagate_entered second trigger hidle hedge henter]
        -- From here on everything is kept under the guard of the run, until the run comes back.
        have hentered := Guard.enter_ok henter
        have hsound := hfit.guarded.enter hidle henter
        have hlimit : entered.limit = (s.engineAt number).guard.limit := by rw [hentered.2]
        have hbegun : Kept number (s.guardedBy number entered) (s.withGuard number entered) :=
          (Kept.refl number s).enter hfit hsound hlimit
        have hfit' := hbegun.fit (hfit.guardedBy hsound)
        have hceiling : (s.withGuard number entered).ceiling number < bound := by
          rw [hbegun.ceiling_eq]
          exact Nat.lt_of_lt_of_le (ceiling_enter hfit henter) hbound
        obtain ⟨hrunSame, hran⟩ := runEdge_reached hagree hupkeep hfit'
          (hupkeep.guarded entered hfit hgood) hceiling trigger (edge_target hedge)
        simp only [hrunSame]
        generalize (runEdge first number trigger edge).run (s.withGuard number entered) = run
          at hran ⊢
        obtain ⟨hmarkSame, hmarked⟩ := tryMark_running hagree hupkeep
          (hran.kept.fit hfit') hran.good
          (by rw [hran.kept.ceiling_eq]; exact hceiling) connector
          (if run.1.isOk then .ok else .error)
        simp only [hmarkSame, true_and]
        generalize tryMark first connector (if run.1.isOk then .ok else .error) run.2 = after
          at hmarked ⊢
        have hkept : Kept number (s.guardedBy number entered) after :=
          hbegun.trans (hran.kept.trans hmarked.kept)
        have hexit : (after.engineAt number).guard.exit connector = (s.engineAt number).guard := by
          rw [hkept.guard, engineAt_guardedBy hfit.present]
          exact Guard.exit_enter henter
        -- With room left under the guard, the rank is a matter of what is kept.
        have hback := hkept.leave hfit hlimit
        have hvacancy : 0 < s.vacancy number := Nat.sub_pos_of_lt hentered.1
        rw [hexit]
        exact ⟨hback, hupkeep.guarded _ (hmarked.kept.fit (hran.kept.fit hfit')) hmarked.good,
          Nat.le_of_eq (hback.rank_eq hvacancy)⟩

end Runs

end Canvasflow.Session
