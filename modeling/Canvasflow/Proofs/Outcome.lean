import Mathlib.Data.List.Forall2

/-!
# Outcomes

How a computation that may fail is taken apart: it succeeds exactly when each of its parts does, and
it fails as one of them does. Two computations agree when both succeed, with results in a relation,
or both fail. A computation with a state goes on where its first part succeeds.
-/

namespace Canvasflow

section Outcomes

variable {ε α β : Type}

/-- A sequence succeeds when its first part does and the rest does on what that part gave. -/
theorem bind_eq_ok_iff {first : Except ε α} {rest : α → Except ε β} {b : β} :
    (first >>= rest) = .ok b ↔ ∃ a, first = .ok a ∧ rest a = .ok b := by
  cases first with
  | error fault => simp [bind, Except.bind]
  | ok a => simp [bind, Except.bind]

/-- A sequence fails as its first part does, or as the rest does on what that part gave. -/
theorem bind_eq_error_iff {first : Except ε α} {rest : α → Except ε β} {fault : ε} :
    (first >>= rest) = .error fault ↔
      first = .error fault ∨ ∃ a, first = .ok a ∧ rest a = .error fault := by
  cases first with
  | error other => simp [bind, Except.bind]
  | ok a => simp [bind, Except.bind]

/-- Whether the first item of a list that is not good is of a kind. -/
def FirstBad {α : Type} (good bad : α → Prop) (items : List α) : Prop :=
  ∃ before item after, items = before ++ item :: after ∧ (∀ earlier ∈ before, good earlier) ∧
    bad item

theorem FirstBad.congr {good bad other : α → Prop} {items : List α}
    (h : ∀ item ∈ items, bad item ↔ other item) :
    FirstBad good bad items ↔ FirstBad good other items := by
  constructor <;>
  · rintro ⟨before, item, after, rfl, hgood, hbad⟩
    exact ⟨before, item, after, rfl, hgood, by simpa [h item (by simp)] using hbad⟩

/-- A list is gone through to the first item that fails. -/
theorem mapM_eq_error_iff {f : α → Except ε β} {items : List α} {fault : ε} :
    items.mapM f = .error fault ↔
      FirstBad (fun item => ∃ b, f item = .ok b) (fun item => f item = .error fault) items := by
  induction items with
  | nil => simp [FirstBad, pure, Except.pure]
  | cons first rest ih =>
    rw [List.mapM_cons, bind_eq_error_iff]
    constructor
    · rintro (hfirst | ⟨b, hfirst, hrest⟩)
      · exact ⟨[], first, rest, rfl, nofun, hfirst⟩
      · rcases bind_eq_error_iff.mp hrest with hrest | ⟨_, _, hpure⟩
        · obtain ⟨before, item, after, rfl, hbefore, hitem⟩ := ih.mp hrest
          exact ⟨first :: before, item, after, rfl,
            List.forall_mem_cons.mpr ⟨⟨b, hfirst⟩, hbefore⟩, hitem⟩
        · cases hpure
    · rintro ⟨before, item, after, hitems, hbefore, hitem⟩
      cases before with
      | nil =>
        cases hitems
        exact .inl hitem
      | cons other before =>
        cases hitems
        obtain ⟨⟨b, hfirst⟩, hbefore⟩ := List.forall_mem_cons.mp hbefore
        exact .inr ⟨b, hfirst, bind_eq_error_iff.mpr
          (.inl (ih.mpr ⟨before, item, after, rfl, hbefore, hitem⟩))⟩

/-- A fold whose steps succeed whatever came before succeeds when all of its steps do. -/
theorem foldlM_eq_ok_iff {step : β → α → Except ε β} {good : α → Prop}
    (h : ∀ b a, (∃ c, step b a = .ok c) ↔ good a) (items : List α) (b : β) :
    (∃ c, items.foldlM step b = .ok c) ↔ ∀ item ∈ items, good item := by
  induction items generalizing b with
  | nil => exact ⟨fun _ => nofun, fun _ => ⟨b, rfl⟩⟩
  | cons item rest ih =>
    rw [List.forall_mem_cons, ← h b item]
    simp only [List.foldlM_cons, bind_eq_ok_iff]
    constructor
    · rintro ⟨c, next, hitem, hrest⟩
      exact ⟨⟨next, hitem⟩, (ih next).mp ⟨c, hrest⟩⟩
    · rintro ⟨⟨next, hitem⟩, hrest⟩
      obtain ⟨c, hrest⟩ := (ih next).mpr hrest
      exact ⟨c, next, hitem, hrest⟩

/-- What each item is written as is read back to a list of the items. -/
theorem mapM_map_of_inverse {read : β → Except ε α} {write : α → β}
    (h : ∀ a, read (write a) = .ok a) (items : List α) :
    (items.map write).mapM read = .ok items := by
  have hread : read ∘ write = fun a => pure a := funext h
  rw [List.mapM_map, hread, List.mapM_pure, List.map_id']
  rfl

/-- A computation that fails only in ways of a kind. -/
def FailsAs (kind : ε → Prop) (result : Except ε α) : Prop :=
  ∀ fault, result = .error fault → kind fault

namespace FailsAs

variable {kind : ε → Prop}

@[simp] theorem ok (a : α) : FailsAs kind (.ok a) :=
  fun _ => nofun

@[simp] theorem pure (a : α) : FailsAs kind (pure a : Except ε α) :=
  ok a

@[simp] theorem error_iff {fault : ε} : FailsAs kind (.error fault : Except ε α) ↔ kind fault :=
  ⟨fun h => h fault rfl, by rintro h _ ⟨⟩; exact h⟩

theorem mono {other : ε → Prop} {result : Except ε α} (h : FailsAs kind result)
    (hkind : ∀ fault, kind fault → other fault) : FailsAs other result :=
  fun fault hresult => hkind fault (h fault hresult)

/-- A sequence fails as one of its parts does. -/
theorem bind {first : Except ε α} {rest : α → Except ε β} (hfirst : FailsAs kind first)
    (hrest : ∀ a, FailsAs kind (rest a)) : FailsAs kind (first >>= rest) := by
  cases first with
  | error fault => exact error_iff.mpr (hfirst fault rfl)
  | ok a => exact hrest a

theorem mapM {f : α → Except ε β} (h : ∀ a, FailsAs kind (f a)) (items : List α) :
    FailsAs kind (items.mapM f) := by
  induction items with
  | nil => exact ok []
  | cons item rest ih =>
    rw [List.mapM_cons]
    exact bind (h item) fun b => bind ih fun others => ok (b :: others)

theorem foldlM {f : β → α → Except ε β} (h : ∀ b a, FailsAs kind (f b a)) (items : List α) (b : β) :
    FailsAs kind (items.foldlM f b) := by
  induction items generalizing b with
  | nil => exact ok b
  | cons item rest ih =>
    rw [List.foldlM_cons]
    exact bind (h b item) ih

end FailsAs

/-- Two computations side by side: both succeed, with results in a relation, or both fail, with
failures in another. -/
inductive Agree {ε' β : Type} (E : ε → ε' → Prop) (R : α → β → Prop) :
    Except ε α → Except ε' β → Prop
  | ok {a : α} {b : β} (h : R a b) : Agree E R (.ok a) (.ok b)
  | error {fault : ε} {other : ε'} (h : E fault other) : Agree E R (.error fault) (.error other)

namespace Agree

variable {ε' α' β' : Type} {E : ε → ε' → Prop} {R : α → α' → Prop} {S : β → β' → Prop}

theorem mono {E' : ε → ε' → Prop} {R' : α → α' → Prop} {first : Except ε α} {second : Except ε' α'}
    (h : Agree E R first second) (hE : ∀ fault other, E fault other → E' fault other)
    (hR : ∀ a b, R a b → R' a b) : Agree E' R' first second := by
  cases h with
  | ok h => exact .ok (hR _ _ h)
  | error h => exact .error (hE _ _ h)

/-- A computation agrees with itself in every reflexive relation. -/
theorem refl {R : α → α → Prop} (h : ∀ a, R a a) (result : Except ε α) :
    Agree Eq R result result := by
  cases result with
  | ok a => exact .ok (h a)
  | error => exact .error rfl

/-- Sequences agree when their first parts do, and their rests do on what these gave. -/
theorem bind {first : Except ε α} {first' : Except ε' α'} {rest : α → Except ε β}
    {rest' : α' → Except ε' β'} (hfirst : Agree E R first first')
    (hrest : ∀ a b, R a b → Agree E S (rest a) (rest' b)) :
    Agree E S (first >>= rest) (first' >>= rest') := by
  cases hfirst with
  | ok h => exact hrest _ _ h
  | error h => exact .error h

theorem mapM {f : α → Except ε β} {f' : α' → Except ε' β'}
    (hf : ∀ a b, R a b → Agree E S (f a) (f' b)) {items : List α} {others : List α'}
    (h : List.Forall₂ R items others) :
    Agree E (List.Forall₂ S) (items.mapM f) (others.mapM f') := by
  induction h with
  | nil => exact .ok .nil
  | cons hitem _ ih =>
    rw [List.mapM_cons, List.mapM_cons]
    exact bind (hf _ _ hitem) fun b b' hb => bind ih fun bs bs' hbs => .ok (.cons hb hbs)

end Agree

/-- Failures that are not told apart. -/
def AnyFailure {ε' : Type} (_ : ε) (_ : ε') : Prop := True

namespace Agree

variable {ε' β : Type} {R : α → β → Prop}

theorem any {E : ε → ε' → Prop} {first : Except ε α} {second : Except ε' β}
    (h : Agree E R first second) : Agree AnyFailure R first second :=
  h.mono (fun _ _ _ => trivial) fun _ _ h => h

theorem refused (fault : ε) (other : ε') :
    Agree AnyFailure R (.error fault : Except ε α) (.error other : Except ε' β) :=
  .error trivial

/-- A computation agrees with itself. -/
theorem itself (result : Except ε α) : Agree AnyFailure Eq result result :=
  (refl (fun _ => rfl) result).any

end Agree

end Outcomes

/-! ## Computations with a state -/

namespace Stateful

variable {ε σ α β : Type}

theorem run_get (s : σ) : (get : ExceptT ε (StateM σ) σ).run s = (.ok s, s) := rfl

theorem run_modify (step : σ → σ) (s : σ) :
    (modify step : ExceptT ε (StateM σ) PUnit).run s = (.ok ⟨⟩, step s) := rfl

/-- A sequence goes on where its first part succeeds, and ends where it fails. -/
theorem run_bind (first : ExceptT ε (StateM σ) α) (rest : α → ExceptT ε (StateM σ) β) (s : σ) :
    (first >>= rest).run s = match first.run s with
      | (.ok a, t) => (rest a).run t
      | (.error fault, t) => (.error fault, t) := by
  change (ExceptT.bindCont rest (first.run s).1).run (first.run s).2 = _
  rcases first.run s with ⟨_ | _, t⟩ <;> rfl

theorem run_bind_ok {first : ExceptT ε (StateM σ) α} {rest : α → ExceptT ε (StateM σ) β} {s t : σ}
    {a : α} (h : first.run s = (.ok a, t)) : (first >>= rest).run s = (rest a).run t := by
  rw [run_bind, h]

theorem run_bind_error {first : ExceptT ε (StateM σ) α} {rest : α → ExceptT ε (StateM σ) β}
    {s t : σ} {fault : ε} (h : first.run s = (.error fault, t)) :
    (first >>= rest).run s = (.error fault, t) := by
  rw [run_bind, h]

/-- A sequence that succeeds goes through its first part. -/
theorem run_bind_eq_ok {first : ExceptT ε (StateM σ) α} {rest : α → ExceptT ε (StateM σ) β}
    {s t : σ} {b : β} (h : (first >>= rest).run s = (.ok b, t)) :
    ∃ a u, first.run s = (.ok a, u) ∧ (rest a).run u = (.ok b, t) := by
  rw [run_bind] at h
  rcases hfirst : first.run s with ⟨fault | a, u⟩
  · rw [hfirst] at h
    cases h
  · rw [hfirst] at h
    exact ⟨a, u, rfl, h⟩

end Stateful

end Canvasflow
