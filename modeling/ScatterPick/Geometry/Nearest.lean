import ScatterPick.Geometry.Coordinate

/-!
# Nearest point

The first of the closest points. A point whose distance is no ordinary number never wins.
-/

namespace ScatterPick

open Coordinate

variable {α : Type} [Coordinate α]

/-- The Euclidean distance of two points. -/
def Point.distance (p q : Point α) : α := length (p.x - q.x) (p.y - q.y)

/-- The better of the best distance so far and a new one; the earlier wins a tie. -/
def closer (best : Option (Nat × α)) (index : Nat) (distance : α) : Option (Nat × α) :=
  if isFinite distance then
    match best with
    | some (_, least) => if less distance least then some (index, distance) else best
    | none => some (index, distance)
  else best

/-- Scans distances from a given index on. -/
def firstLeast (best : Option (Nat × α)) (index : Nat) : List α → Option (Nat × α)
  | [] => best
  | d :: ds => firstLeast (closer best index d) (index + 1) ds

/-- Index and distance of the closest point. -/
def nearest (points : List (Point α)) (target : Point α) : Option (Nat × α) :=
  firstLeast none 0 (points.map (·.distance target))

end ScatterPick
