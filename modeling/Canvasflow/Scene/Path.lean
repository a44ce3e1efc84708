import Canvasflow.Text.Runs

/-!
# Paths

Paths in a file system: names behind each other, from the root or from where one is. Separators
next to each other count once and a single dot is no name, so `Path.ofText` reads several texts as
one path and `Path.text` writes it in its plain form. The ending of a name starts at its last dot,
unless that is the first or the last character.
-/

namespace Canvasflow.Scene

/-- A path: the root it starts from, which is empty where one is, and the names behind each other.
-/
structure Path where
  root : String
  names : List String
  deriving DecidableEq, Repr

namespace Path

/-- The root of a path as it is written. Exactly two separators are a root of their own. -/
def rootOf : List Char → String
  | '/' :: '/' :: '/' :: _ => "/"
  | '/' :: '/' :: _ => "//"
  | '/' :: _ => "/"
  | _ => ""

/-- Read a path. -/
def ofText (text : String) : Path :=
  let chars := text.toList
  ⟨rootOf chars, ((Text.runs (· = '/') chars).map String.ofList).filter (· ≠ ".")⟩

/-- Write a path. -/
def text (path : Path) : String :=
  if path.root.isEmpty && path.names.isEmpty then "."
  else path.root ++ String.intercalate "/" path.names

/-- The last name of a path, which is empty if there is none. -/
def name (path : Path) : String :=
  path.names.getLast?.getD ""

/-- A name without its ending, and the ending with its dot. -/
def splitName (name : String) : String × String :=
  let reversed := name.toList.reverse
  match reversed.takeWhile (· ≠ '.'), reversed.dropWhile (· ≠ '.') with
  | last :: ending, dot :: first :: stem =>
    (String.ofList (first :: stem).reverse, String.ofList (dot :: (last :: ending).reverse))
  | _, _ => (name, "")

/-- The last name of a path without its ending. -/
def stem (path : Path) : String :=
  (splitName path.name).1

/-- The ending of the last name of a path. -/
def ending (path : Path) : String :=
  (splitName path.name).2

/-- The path whose last name has the given ending instead of its own, unless it has no name. -/
def withEnding? (ending : String) (path : Path) : Option Path :=
  if path.names.isEmpty then none
  else some { path with names := path.names.dropLast ++ [path.stem ++ ending] }

/-- A path that only leads upwards, or nowhere, is that of a folder. -/
def leadsUp (path : Path) : Bool :=
  path.names.all (· = "..")

end Path

example : (Path.ofText "./a//b.c/").text = "a/b.c" := by decide +kernel

example : (Path.ofText "a.b.c").stem = "a.b" ∧ (Path.ofText ".hidden").stem = ".hidden" := by
  decide +kernel

end Canvasflow.Scene
