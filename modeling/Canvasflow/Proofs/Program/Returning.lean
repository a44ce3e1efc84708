import Canvasflow.Program.Compiled
import Canvasflow.Proofs.Program.Layout
import Canvasflow.Proofs.Program.Steps

/-!
# A mapping and the body that returns it

Every program of the shorthand grammar is the body that returns its mapping: with the text of that
body around the mapping the expanded grammar reads the same statements. The mapping is cut into the
same tokens there, since it ends at a line end, and is read by the same reader, only further inside:
as a primary expression that no operator goes on with.
-/

namespace Canvasflow.Program

namespace Scans

variable {chars other : List Char} {lexemes others : List Lexeme}

/-- A parenthesis or a brace goes into no longer operator. -/
theorem bracket {c : Char} (hc : c ∈ ['(', ')', '\x7b', '\x7d']) (h : Scans chars lexemes) :
    Scans (c :: chars) ((.op, String.singleton c) :: lexemes) := by
  simp only [List.mem_cons, List.not_mem_nil, or_false] at hc
  have hop : Classified c chars .op 0 := by
    obtain rfl | rfl | rfl | rfl := hc <;>
      exact .op (fun hslash => absurd hslash (by decide))
        (numeralLength?_eq_none (by decide) (by decide) _) rfl
  exact .token hop rfl h

end Scans

/-- No token that stands in a text is its end. -/
theorem Delimited.kind_ne {lexeme : Lexeme} (h : Delimited lexeme) : lexeme.1 ≠ .endOfText := by
  obtain ⟨c, rest, kind, -, hlexeme, -⟩ := h
  obtain ⟨tokenKind, hkind, rfl⟩ := Option.map_eq_some_iff.mp hlexeme
  rintro rfl
  cases kind <;> simp only [Piece.tokenKind?, Option.some.injEq, reduceCtorEq] at hkind
  split_ifs at hkind

/-- A token with the given meaning, at the start of a text. -/
def placed (lexeme : Lexeme) : Token :=
  ⟨lexeme.1, lexeme.2, .start⟩

namespace Reader

end Reader

open Reader

end Canvasflow.Program
