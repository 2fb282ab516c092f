import ScatterPick.Geometry.Nearest
import ScatterPick.Geometry.Polygon
import ScatterPick.Geometry.Trail
import ScatterPick.Selection

/-!
# Gestures

What a finished gesture hits: a click the nearest point within the threshold of its first vertex,
a drag every point inside the closed trail.
-/

namespace ScatterPick

open Coordinate

variable {α : Type} [Coordinate α]

/-- The points inside the lasso. -/
def lassoed (points vertices : List (Point α)) : Selection :=
  .ofList ((points.zipIdx.filter fun p => Polygon.contains vertices p.1).map (·.2))

/-- The point that a click at `target` picks, if one is near enough. -/
def clicked (points : List (Point α)) (target : Point α) (threshold : α) : Selection :=
  match nearest points target with
  | some (index, distance) => if less distance threshold then .ofList [index] else .empty
  | none => .empty

/-- What a gesture was and what it hit. -/
structure Outcome where
  kind : GestureKind
  hits : Selection
  deriving DecidableEq

/-- Interprets a finished gesture. -/
def interpret (points vertices : List (Point α)) (view : View α) (tolerance : α) : Outcome :=
  let threshold := Trail.threshold view tolerance
  let kind := Trail.classify vertices threshold
  match vertices with
  | [] => ⟨kind, .empty⟩
  | first :: _ =>
    match kind with
    | .click => ⟨kind, clicked points first threshold⟩
    | .drag => ⟨kind, lassoed points vertices⟩

end ScatterPick
