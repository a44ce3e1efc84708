/-!
# Blanks

The white space of texts: the ASCII blanks and separators, and the space and line separators of
Unicode. Trimming takes blanks off both ends.
-/

namespace Canvasflow.Text

/-- Whether the character is white space. -/
def isBlank (c : Char) : Bool :=
  let n := c.toNat
  (0x09 ≤ n && n ≤ 0x0D) || (0x1C ≤ n && n ≤ 0x20) || n == 0x85 || n == 0xA0 || n == 0x1680 ||
    (0x2000 ≤ n && n ≤ 0x200A) || n == 0x2028 || n == 0x2029 || n == 0x202F || n == 0x205F ||
    n == 0x3000

/-- The text without the blanks at its end. -/
def trimEnd (chars : List Char) : List Char :=
  (chars.reverse.dropWhile isBlank).reverse

/-- The text without the blanks at its ends. -/
def trimChars (chars : List Char) : List Char :=
  trimEnd (chars.dropWhile isBlank)

/-- The text without the blanks at its ends. -/
def trim (text : String) : String :=
  String.ofList (trimChars text.toList)

/-- Only blanks are trimmed off. -/
theorem eq_trimEnd_append (chars : List Char) :
    ∃ blanks, (∀ c ∈ blanks, isBlank c = true) ∧ chars = trimEnd chars ++ blanks := by
  refine ⟨(chars.reverse.takeWhile isBlank).reverse, fun c hc => ?_, ?_⟩
  · exact List.all_eq_true.mp List.all_takeWhile c (List.mem_reverse.mp hc)
  · rw [trimEnd, ← List.reverse_append, List.takeWhile_append_dropWhile, List.reverse_reverse]

/-- All the blanks at the end are trimmed off. -/
theorem trimEnd_append {chars blanks : List Char} (hblanks : ∀ c ∈ blanks, isBlank c = true)
    (hlast : ∀ c ∈ chars.getLast?, isBlank c = false) : trimEnd (chars ++ blanks) = chars := by
  rw [trimEnd, List.reverse_append,
    List.dropWhile_append_of_pos fun c hc => hblanks c (List.mem_reverse.mp hc)]
  rw [← List.head?_reverse] at hlast
  cases hreverse : chars.reverse with
  | nil => simpa using hreverse.symm
  | cons c rest =>
    have hc : isBlank c = false := hlast c (by rw [hreverse]; rfl)
    rw [List.dropWhile_cons_of_neg (by simp [hc]), ← hreverse, List.reverse_reverse]

/-- Trimming the end leaves no blank there. -/
theorem getLast?_trimEnd (chars : List Char) :
    ∀ c ∈ (trimEnd chars).getLast?, isBlank c = false := by
  intro c hc
  rw [trimEnd, List.getLast?_reverse] at hc
  have := List.head?_dropWhile_not isBlank chars.reverse
  rw [Option.mem_def.1 hc] at this
  simpa using this

end Canvasflow.Text
