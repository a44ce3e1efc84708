import Canvasflow.Proofs.Session.Kept

/-!
# The rank of a session

How far a cascade can still nest. Runs can nest until the guard of the engine lets no more of them
begin, and under a full guard a connector that is refused is still given the colour of a failure,
which is a change of the page like any other. A shape takes that colour once, so under a full guard
the number of shapes without it bounds what can still follow. `rank` puts both together, `ceiling`
bounds the rank by what cascades keep, and the main statements are that a run lowers the ceiling
below the rank from which it began (`ceiling_enter`) and that a refused connector lowers the rank
when it is coloured (`rank_coloured`).
-/

namespace Canvasflow.Page.Document

/-- Whether a shape lacks the colour that goes with a failed run. -/
def isPale (document : Document) (shape : Shape) : Bool :=
  (Entries.find? "color" shape.props).bind Data.text? ≠ some (document.style.color .error)

/-- The number of shapes without the colour of a failed run. -/
def paleness (document : Document) : Nat :=
  document.pageShapes.countP document.isPale

theorem paleness_le_length (document : Document) : document.paleness ≤ document.shapes.length := by
  have hle := List.countP_le_length (p := document.isPale) (l := document.pageShapes)
  simpa [paleness, pageShapes, Entries.values] using hle

variable {document next : Document}

/-- The patch that gives a shape the colour of a marker is accepted, and the shape has the colour
then. -/
theorem recoloring_some {shape : Shape} {marker : Marker} {patch : Patch}
    (h : document.recoloring? shape marker = some patch) :
    patch = { id := shape.id
              props? := some (.record [("color", .str (document.style.color marker))]) } ∧
      (Entries.find? "color" shape.props).bind Data.text? ≠ some (document.style.color marker) := by
  unfold recoloring? at h
  simp only at h
  split at h
  · cases h
  · rename_i hcolor
    cases h
    exact ⟨rfl, hcolor⟩

/-- What recolouring makes of a shape. -/
theorem patched_recoloring {shape changed : Shape} {marker : Marker} {patch : Patch}
    (h : document.recoloring? shape marker = some patch)
    (hpatched : patched shape patch = .ok changed) :
    changed = { shape with
      props := Entries.set "color" (.str (document.style.color marker)) shape.props } := by
  obtain ⟨rfl, _⟩ := recoloring_some h
  exact (Except.ok.inj hpatched).symm

/-- A write over a value that passes a test, by one that does not, leaves one value less that does.
-/
theorem countP_set {α : Type} {p : α → Bool} {key : String} {old : α} (new : α)
    {entries : Entries α} (hold : Entries.find? key entries = some old) (hpasses : p old = true)
    (hfails : p new = false) :
    (Entries.set key new entries).values.countP p + 1 = entries.values.countP p := by
  induction entries with
  | nil => simp at hold
  | cons entry rest ih =>
    obtain ⟨k, a⟩ := entry
    by_cases hk : k = key
    · simp only [Entries.find?, hk, if_true, Option.some.injEq] at hold
      subst hold
      simp [Entries.set, Entries.values, hk, hpasses, hfails]
    · simp only [Entries.find?, hk, if_false] at hold
      have hrest := ih hold
      simp only [Entries.values] at hrest
      simp only [Entries.set, Entries.values, hk, if_false, List.map_cons, List.countP_cons]
      omega

/-- A shape that is given the colour of a failed run makes the page less pale. -/
theorem paleness_coloured (h : document.Sound) {id : String} {shape changed : Shape} {patch : Patch}
    (hshape : document.shape? id = some shape)
    (hpatch : document.recoloring? shape .error = some patch)
    (hupdate : document.update patch = .ok (changed, next)) :
      next.paleness < document.paleness := by
  obtain ⟨old, hold, hpatched, rfl⟩ := update_ok hupdate
  obtain ⟨rfl, hcolor⟩ := recoloring_some hpatch
  simp only [h.id_eq hshape] at hold
  obtain rfl : shape = old := Option.some.inj (hshape.symm.trans hold)
  have hchanged := patched_recoloring hpatch hpatched
  have hcount := countP_set (p := document.isPale) changed hold
    (by simpa [isPale] using hcolor)
    (by simp [isPale, hchanged, Data.text?])
  simp only [paleness, pageShapes, h.id_eq hshape] at hcount ⊢
  exact Nat.lt_of_succ_le (Nat.le_of_eq hcount)

end Canvasflow.Page.Document

namespace Canvasflow.Session

open Canvasflow.Page Canvasflow.Propagation

/-- How many more runs the guard of an engine lets nest. -/
def vacancy (number : Nat) (s : Session) : Nat :=
  (s.engineAt number).guard.limit.toNat - (s.engineAt number).guard.stack.length

/-- How far the changes that an engine makes can still nest. -/
def rank (number : Nat) (s : Session) : Nat :=
  s.vacancy number * (s.document.shapes.length + 1) +
    if s.vacancy number = 0 then s.document.paleness else 0

/-- The greatest rank under the present guard. -/
def ceiling (number : Nat) (s : Session) : Nat :=
  s.vacancy number * (s.document.shapes.length + 1) + s.document.shapes.length

variable {number : Nat} {s t : Session}

theorem rank_le_ceiling (number : Nat) (s : Session) : s.rank number ≤ s.ceiling number := by
  have hpale := s.document.paleness_le_length
  unfold rank ceiling
  split <;> omega

theorem Kept.ceiling_eq (h : Kept number s t) : t.ceiling number = s.ceiling number := by
  simp only [ceiling, vacancy, h.guard, h.length_shapes]

/-- A step that keeps the session and does not touch a shape keeps the rank. -/
theorem Kept.rank_of_shapes (h : Kept number s t)
    (hshapes : t.document.shapes = s.document.shapes) : t.rank number = s.rank number := by
  have hisPale : t.document.isPale = s.document.isPale := by
    funext shape
    simp only [Document.isPale, h.style]
  have hpale : t.document.paleness = s.document.paleness := by
    rw [Document.paleness, Document.pageShapes, hshapes, hisPale]
    rfl
  rw [rank, rank, vacancy, vacancy, h.guard, hshapes, hpale]

/-- While the guard lets another run begin, the rank is a matter of what cascades keep. -/
theorem Kept.rank_eq (h : Kept number s t) (hvacancy : 0 < s.vacancy number) :
    t.rank number = s.rank number := by
  have hsame : t.vacancy number = s.vacancy number := by rw [vacancy, vacancy, h.guard]
  simp only [rank, hsame, h.length_shapes, if_neg (Nat.ne_of_gt hvacancy)]

/-- A run that begins lowers the ceiling. -/
theorem ceiling_enter (hfit : Fit number s) {entered : Guard} {connector : String}
    (henter : (s.engineAt number).guard.enter connector = .ok entered) :
    (s.guardedBy number entered).ceiling number < s.rank number := by
  obtain ⟨hroom, hentered⟩ := Guard.enter_ok henter
  have hvacancy : s.vacancy number = (s.guardedBy number entered).vacancy number + 1 := by
    simp only [vacancy, engineAt_guardedBy hfit.present, hentered, List.length_append,
      List.length_singleton]
    omega
  have hlength : (s.guardedBy number entered).document.shapes.length =
    s.document.shapes.length := rfl
  -- The run takes one place, which is worth one colouring of every shape and one more.
  simp only [rank, ceiling, hvacancy, hlength, Nat.add_mul, Nat.one_mul]
  omega

/-- Under a full guard, a connector that is given the colour of a failed run lowers the rank. -/
theorem rank_coloured (hfit : Fit number s) {id : String} {shape changed : Shape} {patch : Patch}
    {document : Document}
    (hfull : (s.engineAt number).guard.limit.toNat ≤ (s.engineAt number).guard.stack.length)
    (hshape : s.document.shape? id = some shape)
    (hpatch : s.document.recoloring? shape .error = some patch)
    (hupdate : s.document.update patch = .ok (changed, document)) :
    (s.withDocument document).rank number < s.rank number := by
  have hlt := Document.paleness_coloured hfit.sound hshape hpatch hupdate
  have hvacancy : s.vacancy number = 0 := by
    unfold vacancy
    omega
  -- No run can begin in either session, so only the paleness counts.
  have hvacancy' : (s.withDocument document).vacancy number = 0 := hvacancy
  simp only [rank, hvacancy, hvacancy', Nat.zero_mul, if_true, Nat.zero_add]
  exact hlt

end Canvasflow.Session
