import Canvasflow.Data
import Canvasflow.Geometry.GridIndex
import Canvasflow.Geometry.Polygon

/-!
# Surveys

Questions about which outlines of a page overlap, which lie inside others, and how far apart they
are. A survey looks at the sites of a page in their order. It finds the sites near a region in a
grid index if it has one, and else by looking at every site. Two sites overlap when their outlines
cross or when the box around one contains the box around the other.
-/

namespace Canvasflow.Geometry

/-- Why something on a page cannot be measured: a side of a shape is no number, a region has no
cells, or shapes are nested in themselves. -/
inductive Fault where
  | side (fault : Data.NumberFault)
  | cell (fault : FloorFault)
  | nestedTooDeeply
  deriving DecidableEq, Repr

/-- A shape as it lies on the page. -/
structure Site (K : Type) where
  id : String
  type : String
  origin : Point K
  outline : Except Fault (Polygon K)

/-- The sites of a page from bottom to top, and an index of the boxes around them. -/
structure Survey (K : Type) where
  sites : List (Site K)
  index? : Option (GridIndex K)

/-- The items that pass a test, in order; the first fault of the test is the outcome. -/
def keep {ε α : Type} (test : α → Except ε Bool) : List α → Except ε (List α)
  | [] => .ok []
  | item :: rest => do
    let passed ← test item
    let others ← keep test rest
    return if passed then item :: others else others

variable {K : Type}

/-- The box around a site. -/
def Site.bounds [Sub K] [LT K] [LE K] [DecidableLT K] [DecidableLE K] [OfNat K 0] (site : Site K) :
    Except Fault (Box K) :=
  site.outline.map Box.hull

namespace Survey

/-- The site of an identity. -/
def site? (survey : Survey K) (id : String) : Option (Site K) :=
  survey.sites.find? fun site => site.id = id

section Questions

variable [Add K] [Sub K] [Mul K] [Div K] [OfNat K 0] [OfNat K 2] [LT K] [LE K] [DecidableLT K]
  [DecidableLE K] [Floored K]

omit [OfNat K 2] [Mul K] in
/-- The sites whose boxes overlap or touch a region, without the source. -/
def candidates (survey : Survey K) (source : String) (region : Box K) :
    Except Fault (List (Site K)) :=
  let others := survey.sites.filter fun site => site.id ≠ source
  match survey.index? with
  | some index => do
    let keys ← (index.keysIn region).mapError Fault.cell
    return others.filter fun site => keys.contains site.id
  | none => keep (fun site => do return (← site.bounds).collides region) others

omit [OfNat K 2] [Div K] [Floored K] in
/-- Whether two outlines overlap. -/
def overlap (a b : Polygon K) : Bool :=
  Polygon.cross a b || (Box.hull a).contains (Box.hull b) || (Box.hull b).contains (Box.hull a)

omit [OfNat K 2] in
/-- The sites that overlap the source and are not connectors. -/
def overlapping (survey : Survey K) (connectorType : String) (source : Option String) :
    Except Fault (List (Site K)) :=
  match source.bind survey.site? with
  | none => .ok []
  | some site => do
    let outline ← site.outline
    let near ← survey.candidates site.id (Box.hull outline)
    keep (fun other => do return overlap outline (← other.outline))
      (near.filter fun other => other.type ≠ connectorType)

omit [OfNat K 2] [Mul K] in
/-- The sites of the given types whose boxes lie inside the box around the source. -/
def inside (survey : Survey K) (types : List String) (source : Option String) :
    Except Fault (List (Site K)) :=
  match source.bind survey.site? with
  | none => .ok []
  | some site => do
    let region ← site.bounds
    let near ← survey.candidates site.id region
    keep (fun other => do return region.contains (← other.bounds))
      (near.filter fun other => types.contains other.type)

omit [Add K] [Mul K] [Div K] [OfNat K 0] [OfNat K 2] [LT K] [LE K] [DecidableLT K] [DecidableLE K]
  [Floored K] in
/-- The offset of the origin of one site from that of another, if both are known. -/
def offset (survey : Survey K) (a b : Option String) : Option (Point K) :=
  match a.bind survey.site?, b.bind survey.site? with
  | some first, some second => some (first.origin - second.origin)
  | _, _ => none

omit [Mul K] [Floored K] in
/-- The middle of the box around a site, if the site is known. -/
def middle (survey : Survey K) (id : Option String) : Except Fault (Option (Point K)) :=
  match id.bind survey.site? with
  | none => .ok none
  | some site => site.bounds.map fun box => some box.center

omit [Mul K] [Floored K] in
/-- The offset of the middle of one site from that of another, if both are known. -/
def centerOffset (survey : Survey K) (a b : Option String) : Except Fault (Option (Point K)) := do
  match ← survey.middle a, ← survey.middle b with
  | some first, some second => return some (first - second)
  | _, _ => return none

end Questions

end Survey

end Canvasflow.Geometry
