/-!
# Runs

The maximal runs of characters between separators. Runs are never empty, so separators at the ends
of a text or next to each other leave nothing; `runs_eq_nil_iff` says that a text without runs
consists of separators.
-/

namespace Canvasflow.Text

/-- The runs of a text after the unfinished run `run`, which is given last character first. -/
def runsFrom (separates : Char → Bool) (run : List Char) : List Char → List (List Char)
  | [] => if run.isEmpty then [] else [run.reverse]
  | c :: rest =>
    if separates c then
      if run.isEmpty then runsFrom separates [] rest
      else run.reverse :: runsFrom separates [] rest
    else runsFrom separates (c :: run) rest

/-- The maximal runs of characters that are not separators. -/
def runs (separates : Char → Bool) (chars : List Char) : List (List Char) :=
  runsFrom separates [] chars

/-- A run that has begun is completed. -/
theorem runsFrom_ne_nil (separates : Char → Bool) {run : List Char} (h : run ≠ [])
    (chars : List Char) : runsFrom separates run chars ≠ [] := by
  induction chars generalizing run with
  | nil => simp [runsFrom, h]
  | cons c rest ih =>
    by_cases hc : separates c
    · simp [runsFrom, hc, h]
    · simpa [runsFrom, hc] using ih (List.cons_ne_nil c run)

/-- A text without runs consists of separators. -/
theorem runs_eq_nil_iff (separates : Char → Bool) (chars : List Char) :
    runs separates chars = [] ↔ ∀ c ∈ chars, separates c = true := by
  induction chars with
  | nil => simp [runs, runsFrom]
  | cons c rest ih =>
    by_cases hc : separates c
    · simpa [runs, runsFrom, hc] using ih
    · simpa [runs, runsFrom, hc] using runsFrom_ne_nil separates (List.cons_ne_nil c []) rest

end Canvasflow.Text
