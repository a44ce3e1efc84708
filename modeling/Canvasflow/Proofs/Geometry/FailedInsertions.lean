import Canvasflow.Proofs.Geometry.Plane

/-!
# Insertions that fail

An insertion takes off the box that its key had before it looks for the cells of the new one. If
these cannot be told, because a side of the box is not a finite number, the old box is gone all the
same: what is left is the index without the key (`insert_of_fails`). That index answers for all other
keys as before (`has_remove`, `Placed.keysIn_remove`), so a failed insertion changes nothing exactly
if its key had no box. A question that fails fails at its region alone, and no question changes an
index.
-/

namespace Canvasflow.Geometry.GridIndex

variable {K : Type} {index : GridIndex K} {key : String}

/-! ## Distinct keys -/

/-- An index that has at most one box under a key. -/
def Distinct (index : GridIndex K) : Prop :=
  (Entries.keys index.boxes).Nodup

theorem distinct_empty (cellSize : K) : (empty cellSize).Distinct :=
  List.nodup_nil

theorem Distinct.remove (h : index.Distinct) (key : String) : (index.remove key).Distinct := by
  unfold GridIndex.remove
  split
  · exact h
  · exact Entries.nodup_keys_erase h key

/-- One box fewer is left if the key had one. -/
theorem Distinct.size_remove (h : index.Distinct) (key : String) :
    (index.remove key).size = index.size - if index.has key then 1 else 0 := by
  unfold GridIndex.remove has Entries.has size
  cases hentry : Entries.find? key index.boxes with
  | none => rfl
  | some entry =>
    have hmem : key ∈ Entries.keys index.boxes := by
      rw [← Entries.has_iff_mem_keys, Entries.has, hentry]
      rfl
    have hkeys : Entries.keys (Entries.erase key index.boxes) =
        (Entries.keys index.boxes).erase key := by
      rw [Entries.keys_erase, List.Nodup.erase_eq_filter h]
      exact List.filter_congr fun other _ => by simp [bne, beq_eq_decide]
    have hlength := congrArg List.length hkeys
    rw [List.length_erase_of_mem hmem] at hlength
    simpa [Entries.keys] using hlength

section Changes

variable [Add K] [Div K] [BEq K] [Floored K]

theorem Distinct.perform (h : index.Distinct) (change : Change K) :
    (index.perform change).1.Distinct := by
  cases change with
  | insert key box =>
    change (index.insert key box).1.Distinct
    unfold GridIndex.insert
    split
    · exact h
    · split
      · exact Entries.nodup_keys_set (h.remove key) key _
      · exact h.remove key
  | remove key => exact h.remove key
  | clear => exact List.nodup_nil

theorem Distinct.after (h : index.Distinct) (changes : List (Change K)) :
    (index.after changes).Distinct := by
  induction changes generalizing index with
  | nil => exact h
  | cons change rest ih => exact ih (h.perform change)

/-- An insertion that fails leaves the index without its key, whatever the key had. -/
theorem insert_of_fails {box : Box K} {fault : FloorFault}
    (h : (index.insert key box).2 = .error fault) : (index.insert key box).1 = index.remove key := by
  unfold GridIndex.insert at h ⊢
  split
  · rename_i hsame
    rw [if_pos hsame] at h
    cases h
  · rename_i hsame
    rw [if_neg hsame] at h
    cases hcells : cells index.cellSize box with
    | error other => rfl
    | ok covered =>
      rw [hcells] at h
      cases h

end Changes

/-! ## What is answered without a key -/

theorem has_remove (index : GridIndex K) (key other : String) :
    (index.remove key).has other = (other != key && index.has other) := by
  have hhas (index : GridIndex K) : index.has other = (index.box? other).isSome := by
    simp [has, Entries.has, box?]
  rw [hhas, hhas, box?_remove]
  by_cases heq : other = key <;> simp [heq]

theorem remove_of_not_has (h : index.has key = false) : index.remove key = index := by
  rw [has, Entries.has, Option.isSome_eq_false_iff, Option.isNone_iff_eq_none] at h
  rw [remove, h]

section Questions

variable [Add K] [Div K] [Floored K]

theorem Placed.bucket_remove (h : index.Placed) (key : String) (cell : Cell) :
    (index.remove key).bucket cell = (index.bucket cell).filter (· != key) := by
  have hkeep (habsent : key ∉ index.bucket cell) :
      index.bucket cell = (index.bucket cell).filter (· != key) := by
    refine (List.filter_eq_self.mpr fun other hother => ?_).symm
    exact bne_iff_ne.mpr fun heq => habsent (heq ▸ hother)
  cases hentry : Entries.find? key index.boxes with
  | none =>
    have hremove : index.remove key = index := by rw [GridIndex.remove, hentry]
    rw [hremove]
    refine hkeep fun hmem => ?_
    obtain ⟨entry, hfound, -⟩ := h.placed.mp hmem
    rw [hentry] at hfound
    cases hfound
  | some entry =>
    have hbuckets : (index.remove key).bucket cell =
        bucketOf (entry.cells.foldl (leave key) index.buckets) cell := by
      rw [GridIndex.remove, hentry]
      rfl
    rw [hbuckets, bucketOf_leaves]
    split
    · rfl
    · rename_i hcell
      refine hkeep fun hmem => ?_
      obtain ⟨other, hfound, hother⟩ := h.placed.mp hmem
      rw [hentry] at hfound
      cases hfound
      exact hcell hother

/-- What is left out of some keys may be left out before or after they are collected. -/
theorem filter_foldl_insert (keep : String → Bool) (keys found : List String) :
    (keys.foldl (fun found key => found.insert key) found).filter keep =
      (keys.filter keep).foldl (fun found key => found.insert key) (found.filter keep) := by
  induction keys generalizing found with
  | nil => rfl
  | cons first rest ih =>
    have hstep : (found.insert first).filter keep =
        if keep first then (found.filter keep).insert first else found.filter keep := by
      by_cases hmem : first ∈ found <;> cases hkeep : keep first <;>
        simp [List.insert, hmem, hkeep, List.mem_filter]
    rw [List.foldl_cons, ih, hstep]
    cases hkeep : keep first <;> simp [hkeep]

theorem Placed.candidates_remove (h : index.Placed) (key : String) (covered : List Cell)
    (found : List String) :
    covered.foldl (fun keys cell => ((index.remove key).bucket cell).foldl
        (fun keys key => keys.insert key) keys) (found.filter (· != key)) =
      (covered.foldl (fun keys cell => (index.bucket cell).foldl
        (fun keys key => keys.insert key) keys) found).filter (· != key) := by
  induction covered generalizing found with
  | nil => rfl
  | cons first rest ih =>
    rw [List.foldl_cons, List.foldl_cons, h.bucket_remove, ← filter_foldl_insert, ih]

variable [LT K] [DecidableLT K]

/-- A question is answered as before, without the key. -/
theorem Placed.keysIn_remove (h : index.Placed) (key : String) (region : Box K) :
    (index.remove key).keysIn region = (index.keysIn region).map (·.filter (· != key)) := by
  unfold keysIn
  rw [cellSize_remove]
  cases cells index.cellSize region with
  | error fault => rfl
  | ok covered =>
    have hcandidates := h.candidates_remove key covered []
    change Except.ok (List.filter _ (covered.foldl _ ([].filter (· != key)))) =
      Except.ok (List.filter _ (List.filter _ _))
    rw [hcandidates, List.filter_filter, List.filter_filter]
    refine congrArg Except.ok (List.filter_congr fun other _ => ?_)
    rw [box?_remove]
    by_cases heq : other = key <;> simp [heq, Bool.and_comm]

/-- A question fails at its region alone. -/
theorem keysIn_eq_error_iff {region : Box K} {fault : FloorFault} :
    index.keysIn region = .error fault ↔ cells index.cellSize region = .error fault := by
  rw [keysIn, bind_eq_error_iff]
  constructor
  · rintro (hcells | ⟨covered, -, hanswer⟩)
    · exact hcells
    · cases hanswer
  · exact .inl

/-- Two indexes that give the same answers. -/
structure SameAnswers (index other : GridIndex K) : Prop where
  has (key : String) : index.has key = other.has key
  box? (key : String) : index.box? key = other.box? key
  size : index.size = other.size
  keysIn (region : Box K) : index.keysIn region = other.keysIn region

theorem sameAnswers_remove_iff : (index.remove key).SameAnswers index ↔ index.has key = false := by
  constructor
  · intro hsame
    have hhas := hsame.has key
    rw [has_remove, bne_self_eq_false, Bool.false_and] at hhas
    exact hhas.symm
  · intro habsent
    rw [remove_of_not_has habsent]
    exact ⟨fun _ => rfl, fun _ => rfl, rfl, fun _ => rfl⟩

end Questions

/-! ## Grids over doubles -/

section Doubles

variable {index : GridIndex Float} {box : Box Float}

/-- A box that has a side at no finite number covers no cells that can be told. -/
theorem cells_eq_error (hbox : ¬ box.Finite) (size : Float) :
    ∃ fault, cells size box = .error fault := by
  cases hcells : cells size box with
  | error fault => exact ⟨fault, rfl⟩
  | ok covered => exact absurd (finite_of_cells hcells) hbox

/-- Boxes that an index holds have finite sides, so it never has a box without them already. -/
theorem Placed.insert_fails (h : index.Placed) (key : String) (hbox : ¬ box.Finite) :
    ∃ fault, (index.insert key box).2 = .error fault := by
  have hnew : ¬ (index.box? key == some box) = true := by
    intro hsame
    cases hentry : Entries.find? key index.boxes with
    | none => simp [box?, hentry] at hsame
    | some entry =>
      have hequal : (entry.box == box) = true := by simpa [box?, hentry] using hsame
      obtain ⟨met, hmet⟩ := cells_of_beq (h.told hentry) hequal
      exact hbox (finite_of_cells hmet)
  obtain ⟨fault, hcells⟩ := cells_eq_error hbox index.cellSize
  exact ⟨fault, by rw [GridIndex.insert, if_neg hnew, hcells]⟩

end Doubles

/-- After any changes of an index over doubles, an insertion of a box with a side that is not a
finite number fails, and so does a question about such a region. A failed insertion changes no
answer exactly if its key had no box. If it had one, this is lost, whatever was to come in its
place: the key is no longer present, has no box and is in no answer, and the index is one box
smaller. All other keys are answered for as before. -/
theorem failed_insert_drops (size : Float) (changes : List (Change Float)) :
    let index := (empty size).after changes
    (∀ key (box : Box Float), ¬ box.Finite → ∃ fault, (index.insert key box).2 = .error fault) ∧
    (∀ region : Box Float, ¬ region.Finite → ∃ fault, index.keysIn region = .error fault) ∧
    ∀ key (box : Box Float) fault, (index.insert key box).2 = .error fault →
      let left := (index.insert key box).1
      (left.SameAnswers index ↔ index.has key = false) ∧
      (∀ other, left.has other = (other != key && index.has other)) ∧
      (∀ other, left.box? other = if other = key then none else index.box? other) ∧
      (left.size = index.size - if index.has key then 1 else 0) ∧
      ∀ region, left.keysIn region = (index.keysIn region).map (·.filter (· != key)) := by
  intro index
  have hplaced : index.Placed := ((placed_empty size).after changes).1
  have hdistinct : index.Distinct := (distinct_empty size).after changes
  refine ⟨fun key box hbox => hplaced.insert_fails key hbox, fun region hregion => ?_,
    fun key box fault hfails => ?_⟩
  · obtain ⟨fault, hcells⟩ := cells_eq_error hregion index.cellSize
    exact ⟨fault, keysIn_eq_error_iff.mpr hcells⟩
  · intro left
    have hleft : left = index.remove key := insert_of_fails hfails
    rw [hleft]
    exact ⟨sameAnswers_remove_iff, has_remove index key, box?_remove index key,
      hdistinct.size_remove key, hplaced.keysIn_remove key⟩

/-- An index with one box. -/
def single : GridIndex Float :=
  (empty 256).after [.insert "a" ⟨0, 0, 10, 10⟩]

/-- A box at no number. -/
def astray : Box Float :=
  ⟨Double.notANumber, 0, 10, 10⟩

theorem failed_insert_drops_single :
    single.has "a" = true ∧ (single.insert "a" astray).2 = .error .notANumber ∧
      ¬ (single.insert "a" astray).1.SameAnswers single ∧
      (single.insert "a" astray).1.has "a" = false ∧ (single.insert "a" astray).1.size = 0 := by
  have hpresent : single.has "a" = true := rfl
  have hfails : (single.insert "a" astray).2 = .error .notANumber := rfl
  obtain ⟨hsame, hhas, -, hsize, -⟩ :=
    (failed_insert_drops 256 [.insert "a" ⟨0, 0, 10, 10⟩]).2.2 "a" astray .notANumber hfails
  refine ⟨hpresent, hfails, ?_, hhas "a", ?_⟩
  · intro hanswers
    have habsent : single.has "a" = false := hsame.mp hanswers
    rw [hpresent] at habsent
    cases habsent
  · have hleft : (single.insert "a" astray).1.size =
        single.size - if single.has "a" then 1 else 0 := hsize
    rw [hleft, hpresent]
    rfl

end Canvasflow.Geometry.GridIndex
