import Canvasflow.Proofs.Program.Abreast

/-!
# Constants and enclosing scopes

A name is written only where it is declared, a constant is never written, and no name is declared
again over a constant. So whatever a statement does, and however it ends, every constant of every
scope around it keeps its value (`Frame.Keeps`). Names are declared in the innermost scope alone;
the scopes around it keep their names, too (`Frame.Sealed`). A block and a loop with a start have an
innermost scope of their own, so they leave every scope around them sealed.
-/

namespace Canvasflow.Program

/-! ## Frames -/

/-- The names of a frame, and which of them are constant. -/
def Frame.declared (frame : Frame) : List String × List String :=
  (Entries.keys frame.values, frame.constants)

/-- Every constant of a frame is one of the later frame, under the same value. -/
def Frame.Keeps (frame later : Frame) : Prop :=
  ∀ name ∈ frame.constants, ∀ value, Entries.find? name frame.values = some value →
    name ∈ later.constants ∧ Entries.find? name later.values = some value

/-- The later frame has the same names, of which the same are constant and keep their values. -/
structure Frame.Sealed (frame later : Frame) : Prop where
  declared : later.declared = frame.declared
  keeps : frame.Keeps later

namespace Frame

variable {frame next later : Frame} {name : String} {value : Value}

theorem Keeps.refl (frame : Frame) : frame.Keeps frame :=
  fun _ hconstant _ hvalue => ⟨hconstant, hvalue⟩

theorem Keeps.trans (h : frame.Keeps next) (h' : next.Keeps later) : frame.Keeps later := by
  intro name hconstant value hvalue
  obtain ⟨hconstant', hvalue'⟩ := h name hconstant value hvalue
  exact h' name hconstant' value hvalue'

theorem Sealed.refl (frame : Frame) : frame.Sealed frame :=
  ⟨rfl, .refl frame⟩

theorem Sealed.trans (h : frame.Sealed next) (h' : next.Sealed later) : frame.Sealed later :=
  ⟨h'.declared.trans h.declared, h.keeps.trans h'.keeps⟩

/-- A write to a name that a frame has is refused if the name is constant. -/
theorem sealed_of_write (hname : Entries.has name frame.values = true)
    (h : frame.write name value = .ok next) : frame.Sealed next := by
  unfold write at h
  split at h
  · cases h
  · rename_i hfree
    cases h
    refine ⟨congrArg (·, frame.constants)
      (Entries.keys_set_of_mem ((Entries.has_iff_mem_keys _ _).mp hname) value), ?_⟩
    intro other hconstant held hheld
    have hne : other ≠ name := by
      rintro rfl
      exact hfree (List.contains_iff_mem.mpr hconstant)
    exact ⟨hconstant, (Entries.find?_set_of_ne hne value frame.values).trans hheld⟩

/-- A declaration of a name that a frame has as a constant is refused, even by `var`. -/
theorem keeps_of_declare {declarator : Declarator}
    (h : frame.declare declarator name value = .ok next) : frame.Keeps next := by
  unfold declare at h
  split at h
  · cases h
  · rename_i hfree
    cases h
    intro other hconstant held hheld
    have hne : other ≠ name := by
      rintro rfl
      refine hfree ?_
      rw [Entries.has, hheld, List.contains_iff_mem.mpr hconstant, Bool.or_true]
      rfl
    refine ⟨?_, (Entries.find?_set_of_ne hne value frame.values).trans hheld⟩
    dsimp only
    split
    · exact List.mem_cons_of_mem name hconstant
    · exact hconstant

end Frame

/-! ## Scopes -/

/-- Scopes of which the innermost keeps its constants and the others are sealed. -/
inductive Grown : List Frame → List Frame → Prop
  | nil : Grown [] []
  | cons {frame later : Frame} {outer others : List Frame} (hinner : frame.Keeps later)
      (houter : List.Forall₂ Frame.Sealed outer others) : Grown (frame :: outer) (later :: others)

section Scopes

variable {scopes others next : List Frame} {name : String} {value : Value}

theorem forall₂_sealed_refl (scopes : List Frame) : List.Forall₂ Frame.Sealed scopes scopes :=
  List.forall₂_same.mpr fun frame _ => .refl frame

theorem forall₂_sealed_trans (h : List.Forall₂ Frame.Sealed scopes others)
    (h' : List.Forall₂ Frame.Sealed others next) : List.Forall₂ Frame.Sealed scopes next := by
  induction h generalizing next with
  | nil => exact h'
  | cons hframe _ ih =>
    cases h' with
    | cons hframe' houter' => exact .cons (hframe.trans hframe') (ih houter')

/-- Sealed scopes have the same names and constants, scope for scope. -/
theorem declared_of_sealed (h : List.Forall₂ Frame.Sealed scopes others) :
    others.map Frame.declared = scopes.map Frame.declared := by
  induction h with
  | nil => rfl
  | cons hframe _ ih => rw [List.map_cons, List.map_cons, hframe.declared, ih]

theorem Grown.refl (scopes : List Frame) : Grown scopes scopes := by
  cases scopes with
  | nil => exact .nil
  | cons frame outer =>
    exact .cons (.refl frame) (forall₂_sealed_refl outer)

theorem Grown.trans (h : Grown scopes others) (h' : Grown others next) : Grown scopes next := by
  cases h with
  | nil => exact h'
  | cons hinner houter =>
    cases h' with
    | cons hinner' houter' =>
      exact .cons (hinner.trans hinner') (forall₂_sealed_trans houter houter')

theorem grown_of_sealed (h : List.Forall₂ Frame.Sealed scopes others) : Grown scopes others := by
  cases h with
  | nil => exact .nil
  | cons hinner houter => exact .cons hinner.keeps houter

theorem Grown.keeps (h : Grown scopes others) : List.Forall₂ Frame.Keeps scopes others := by
  cases h with
  | nil => exact .nil
  | cons hinner houter => exact .cons hinner (houter.imp fun _ _ hsealed => hsealed.keeps)

theorem Grown.tail_sealed (h : Grown scopes others) :
    List.Forall₂ Frame.Sealed scopes.tail others.tail := by
  cases h with
  | nil => exact .nil
  | cons _ houter => exact houter

/-- An assignment to a name leaves all scopes sealed. -/
theorem sealed_of_assignIn (h : Run.assignIn name value scopes = .ok next) :
    List.Forall₂ Frame.Sealed scopes next := by
  induction scopes generalizing next with
  | nil => cases h
  | cons frame outer ih =>
    rw [Run.assignIn_cons] at h
    split at h
    · rename_i hname
      obtain ⟨written, hwrite, h⟩ := bind_eq_ok_iff.mp h
      cases h
      exact .cons (Frame.sealed_of_write hname hwrite) (forall₂_sealed_refl outer)
    · obtain ⟨others, houter, h⟩ := bind_eq_ok_iff.mp h
      cases h
      exact .cons (.refl frame) (ih houter)

/-- A declaration is seen in the innermost scope alone. -/
theorem grown_of_declareIn {declarator : Declarator}
    (h : Run.declareIn declarator name value scopes = .ok next) : Grown scopes next := by
  cases scopes with
  | nil =>
    cases h
    exact .nil
  | cons frame outer =>
    obtain ⟨declared, hdeclare, h⟩ := bind_eq_ok_iff.mp h
    cases h
    exact .cons (Frame.keeps_of_declare hdeclare) (forall₂_sealed_refl outer)

end Scopes

/-! ## Statements -/

section Statements

variable {context : Context}

/-- The scopes after a statement, whether it ends, returns or fails. -/
def scopesAfter (context : Context) (stmt : Stmt) (machine : Machine) : List Frame :=
  ((execute context stmt).run machine).2.scopes

theorem grown_serves (start : List Frame) :
    (Pairing.itself (Grown start)).Serves fun _ => True :=
  { Pairing.itself_paced,
    Pairing.itself_reads fun hgrown hassign =>
      hgrown.trans (grown_of_sealed (sealed_of_assignIn hassign)),
    Pairing.itself_declares fun hgrown hdeclare =>
      hgrown.trans (grown_of_declareIn hdeclare) with }

theorem sealed_reads (start : List Frame) :
    (Pairing.itself (List.Forall₂ Frame.Sealed start)).Reads fun _ => True :=
  Pairing.itself_reads fun hsealed hassign =>
    forall₂_sealed_trans hsealed (sealed_of_assignIn hassign)

theorem scopesAfter_grown (stmt : Stmt) (machine : Machine) :
    Grown machine.scopes (scopesAfter context stmt machine) :=
  (execute_abreast stmt (grown_serves machine.scopes) fun _ _ => trivial).kind_of_itself
    (.refl machine.scopes)

theorem scopesAfter_block (body : List Stmt) (machine : Machine) :
    List.Forall₂ Frame.Sealed machine.scopes (scopesAfter context (.block body) machine) :=
  (block_abreast Pairing.itself_paced (sealed_reads machine.scopes) body
    fun _ _ => trivial).kind_of_itself (forall₂_sealed_refl machine.scopes)

theorem scopesAfter_iterate (start : Option Stmt) (test next : Option Expr) (body : Stmt)
    (machine : Machine) : List.Forall₂ Frame.Sealed machine.scopes
      (scopesAfter context (.iterate start test next body) machine) :=
  (iterate_abreast Pairing.itself_paced (sealed_reads machine.scopes) start test next body
    fun _ _ => trivial).kind_of_itself (forall₂_sealed_refl machine.scopes)

/-- A statement of any kind, executed in any scopes, leaves every constant of each of them under the
same value, and the scopes around the innermost one with the same names and constants. A block and a
loop with a start leave all scopes so. All of this holds whether the statement ends, returns or
fails. -/
theorem execute_keeps_constants (context : Context) (machine : Machine) :
    (∀ stmt,
      List.Forall₂ Frame.Keeps machine.scopes (scopesAfter context stmt machine) ∧
      List.Forall₂ Frame.Sealed machine.scopes.tail (scopesAfter context stmt machine).tail) ∧
    (∀ body,
      List.Forall₂ Frame.Sealed machine.scopes (scopesAfter context (.block body) machine)) ∧
    ∀ start test next body, List.Forall₂ Frame.Sealed machine.scopes
      (scopesAfter context (.iterate start test next body) machine) := by
  refine ⟨fun stmt => ?_, fun body => scopesAfter_block body machine,
    fun start test next body => scopesAfter_iterate start test next body machine⟩
  have hgrown : Grown machine.scopes (scopesAfter context stmt machine) :=
    scopesAfter_grown stmt machine
  exact ⟨hgrown.keeps, hgrown.tail_sealed⟩

end Statements

end Canvasflow.Program
