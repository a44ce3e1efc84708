/-!
# Tables of code points

A set of code points as a table of closed ranges.
-/

namespace Canvasflow.Text

/-- Closed ranges of code points. -/
abbrev Ranges := Array (Nat × Nat)

/-- Whether a code point lies in one of the ranges. -/
def Ranges.contains (table : Ranges) (point : Nat) : Bool :=
  table.any fun range => range.1 ≤ point && point ≤ range.2

end Canvasflow.Text
