import Canvasflow.Data.Json
import Canvasflow.Proofs.Outcome
import Canvasflow.Proofs.Page.Plain

/-!
# What is read from JSON text

The last of several equal keys wins in JSON text, so that no record that is read has a key twice:
`plain_of_read`.
-/

namespace Canvasflow.Json

open Canvasflow.Data

/-- Later entries replace earlier ones under their keys. -/
theorem plain_ofList {fields : List (String × Data)} (h : PlainFields fields) :
    (Data.record (Entries.ofList fields)).Plain := by
  have hempty : (Data.record []).Plain := ⟨List.nodup_nil, trivial⟩
  exact hempty.merge h

theorem plain_of_readNumber {negative : Bool} {chars rest : List Char} {data : Data}
    (h : readNumber negative chars = .ok (data, rest)) : data.Plain := by
  unfold readNumber at h
  split at h
  · cases h
  · dsimp only at h
    split at h
    · split at h
      · cases h
      · cases h
        trivial
    · cases h
      trivial

theorem plain_of_readScalar {chars rest : List Char} {data : Data}
    (h : readScalar chars = .ok (data, rest)) : data.Plain := by
  unfold readScalar at h
  split at h
  · rename_i found hfound
    cases h
    obtain ⟨word, hword, hrest⟩ := List.exists_of_findSome?_eq_some hfound
    obtain ⟨after, -, heq⟩ := Option.map_eq_some_iff.mp hrest
    cases heq
    have hwords : ∀ word ∈ words, word.2.Plain := by simp [words, Data.double, Data.Plain]
    exact hwords word hword
  · split at h
    · exact plain_of_readNumber h
    · exact plain_of_readNumber h

/-- Values, items and fields are plain, by induction on the fuel of their three readers. -/
theorem plain_of_readWithin (fuel : Nat) :
    (∀ {room chars data rest}, readValue fuel room chars = .ok (data, rest) → data.Plain) ∧
      (∀ {room chars items rest}, readItems fuel room chars = .ok (items, rest) →
        PlainItems items) ∧
      ∀ {room chars fields rest}, readFields fuel room chars = .ok (fields, rest) →
        PlainFields fields := by
  induction fuel with
  | zero => exact ⟨nofun, nofun, nofun⟩
  | succ fuel ih =>
    obtain ⟨ihvalue, ihitems, ihfields⟩ := ih
    refine ⟨fun {room chars data rest} h => ?_, fun {room chars items rest} h => ?_,
      fun {room chars fields rest} h => ?_⟩
    · unfold readValue at h
      split at h
      · obtain ⟨⟨text, after⟩, -, h⟩ := bind_eq_ok_iff.mp h
        cases h
        trivial
      · split at h
        · cases h
        · cases h
          trivial
        · obtain ⟨⟨items, after⟩, hitems, h⟩ := bind_eq_ok_iff.mp h
          cases h
          exact ihitems hitems
      · split at h
        · cases h
        · cases h
          exact ⟨List.nodup_nil, trivial⟩
        · obtain ⟨⟨fields, after⟩, hfields, h⟩ := bind_eq_ok_iff.mp h
          cases h
          exact plain_ofList (ihfields hfields)
      · exact plain_of_readScalar h
    · unfold readItems at h
      obtain ⟨⟨item, after⟩, hitem, h⟩ := bind_eq_ok_iff.mp h
      dsimp only at h
      split at h
      · cases h
        exact ⟨ihvalue hitem, trivial⟩
      · obtain ⟨⟨others, last⟩, hothers, h⟩ := bind_eq_ok_iff.mp h
        cases h
        exact ⟨ihvalue hitem, ihitems hothers⟩
      · cases h
    · unfold readFields at h
      split at h
      · obtain ⟨⟨key, afterKey⟩, -, h⟩ := bind_eq_ok_iff.mp h
        dsimp only at h
        split at h
        · obtain ⟨⟨value, after⟩, hvalue, h⟩ := bind_eq_ok_iff.mp h
          dsimp only at h
          split at h
          · cases h
            exact ⟨ihvalue hvalue, trivial⟩
          · obtain ⟨⟨others, last⟩, hothers, h⟩ := bind_eq_ok_iff.mp h
            cases h
            exact ⟨ihvalue hvalue, ihfields hothers⟩
          · cases h
        · cases h
      · cases h

/-- No record that is read from a text has a key twice. -/
theorem plain_of_read {text : String} {data : Data} (h : read text = .ok data) : data.Plain := by
  obtain ⟨⟨value, rest⟩, hvalue, h⟩ := bind_eq_ok_iff.mp h
  dsimp only at h
  split at h
  · cases h
    exact (plain_of_readWithin _).1 hvalue
  · cases h

end Canvasflow.Json
