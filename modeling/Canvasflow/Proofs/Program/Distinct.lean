import Canvasflow.Proofs.Page.Plain
import Canvasflow.Proofs.Program.Copies
import Canvasflow.Proofs.Program.LikeRuns

/-!
# Distinct keys

No operation of a program puts a key into a record twice. So a heap that is loaded from plain data
has records with distinct keys throughout a run, and what is copied out of it is plain again.
-/

namespace Canvasflow.Program

/-- Keys of a record are distinct. Numbers stand for themselves only, and there are no limits on
texts, lengths and failures. -/
def Likeness.distinct : Likeness where
  num := Eq
  text _ := True
  size _ := True
  keys := List.Nodup
  fails _ := True

namespace Likeness

theorem nodup_concat {keys : List String} {key : String} (h : keys.Nodup) (hkey : key ∉ keys) :
    (keys ++ [key]).Nodup :=
  List.nodup_append'.mpr ⟨h, List.nodup_singleton key, List.disjoint_singleton.mpr hkey⟩

theorem distinct_lawful : distinct.Lawful where
  nil := List.nodup_nil
  add h _ hkey := nodup_concat h hkey
  take h _ _ hkey := nodup_concat h hkey
  drop h hfewer := h.sublist hfewer
  double _ := rfl
  toFloat? h := congrArg _ h
  whole? h := congrArg _ h
  written? h := congrArg _ h
  same hab hcd := by rw [hab, hcd]
  truthy h := by rw [h]
  count h := by rw [h]
  settle h := ⟨congrArg _ h, rfl⟩
  missing := rfl
  sized _ := rfl
  size_le _ _ := trivial
  size_max := trivial
  chars _ := trivial
  text_max _ := trivial
  part _ _ := trivial
  program _ := trivial
  tooDeep := trivial
  overflow _ _ := trivial
  unwritten _ _ := trivial

theorem distinct_lengthening : distinct.Lengthening where
  upper _ := trivial
  lower _ := trivial
  pieces _ := trivial

theorem distinct_unlimited : distinct.Unlimited where
  text _ := trivial
  size _ := trivial

mutual

/-- Plain data may be given to a run. -/
theorem distinct_admits : (data : Data) → data.Plain → distinct.Admits data
  | .null, _ | .bool _, _ | .str _, _ => trivial
  | .num _, _ => rfl
  | .list items, h => ⟨trivial, distinct_admitsAll items h⟩
  | .record fields, h => ⟨h.1, distinct_admitsFields fields h.2⟩

theorem distinct_admitsAll : (items : List Data) → Data.PlainItems items → distinct.AdmitsAll items
  | [], _ => trivial
  | item :: rest, h => ⟨distinct_admits item h.1, distinct_admitsAll rest h.2⟩

theorem distinct_admitsFields : (fields : List (String × Data)) → Data.PlainFields fields →
    distinct.AdmitsFields fields
  | [], _ => trivial
  | (_, item) :: rest, h => ⟨distinct_admits item h.1, distinct_admitsFields rest h.2⟩

end

end Likeness

open Likeness

variable {heap : Heap}

theorem CopiedFields.keys_eq {fields : Entries Value} {copies : Entries Data}
    (h : CopiedFields heap fields copies) : Entries.keys copies = Entries.keys fields := by
  induction fields generalizing copies with
  | nil =>
    cases h
    rfl
  | cons field rest ih =>
    obtain ⟨key, value⟩ := field
    cases h with | cons _ hrest =>
    exact congrArg (key :: ·) (ih hrest)

mutual

/-- What is copied out of a heap with distinct keys is plain. -/
theorem Copied.plain (hheap : distinct.Heaps heap heap) {value : Value} {data : Data} :
    Copied heap value data → data.Plain
  | .null | .bool _ | .num _ | .str _ => trivial
  | .list h => h.plain hheap
  | .record h => ⟨h.keys_eq ▸ (hheap.fields distinct_lawful _).1, h.plain hheap⟩

theorem CopiedItems.plain (hheap : distinct.Heaps heap heap) {items : List Value}
    {copies : List Data} : CopiedItems heap items copies → Data.PlainItems copies
  | .nil => trivial
  | .cons h hrest => ⟨h.plain hheap, hrest.plain hheap⟩

theorem CopiedFields.plain (hheap : distinct.Heaps heap heap) {fields : Entries Value}
    {copies : Entries Data} : CopiedFields heap fields copies → Data.PlainFields copies
  | .nil => trivial
  | .cons h hrest => ⟨h.plain hheap, hrest.plain hheap⟩

end

/-- A patch of copies is plain. -/
theorem CopiedPatch.plain (hheap : distinct.Heaps heap heap) {fields : Entries Value}
    (hkeys : (Entries.keys fields).Nodup) {patch : Page.Patch} (h : CopiedPatch heap fields patch) :
    patch.Plain := by
  constructor
  · intro data hdata
    obtain ⟨copies, hcopies, hprops⟩ := h.props
    have hplain : (Data.record copies).Plain :=
      ⟨hcopies.keys_eq ▸ hkeys.sublist (List.filter_sublist.map _), hcopies.plain hheap⟩
    rcases hprops data hdata with rfl | ⟨text, rfl⟩
    · exact hplain
    · exact hplain.set "text" trivial
  · intro data hdata
    have hmetadata := h.metadata
    rw [Option.mem_def.mp hdata] at hmetadata
    generalize present? "m" fields = found at hmetadata
    cases hmetadata with | some hcopied =>
    exact hcopied.plain hheap

end Canvasflow.Program
