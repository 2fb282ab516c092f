import ScatterPick.Geometry.Coordinate

/-!
# Lasso polygons

Even-odd containment in the closed polygon through a list of vertices. An edge is half open in
`y`, and a crossing counts only strictly right of the point, so bottom and left boundaries belong
to the polygon while top and right ones do not.
-/

namespace ScatterPick.Polygon

open Coordinate

variable {α : Type} [Coordinate α]

/-- Where the edge from `b` to `a` meets the height of `p`. -/
def crossing (p a b : Point α) : α := a.x + (p.y - a.y) * (b.x - a.x) / (b.y - a.y)

/-- Whether the ray from `p` to the right crosses the edge from `b` to `a`. -/
def crosses (p a b : Point α) : Bool :=
  (less p.y a.y != less p.y b.y) && less p.x (crossing p a b)

/-- Whether the ray crosses an odd number of the edges from `previous` along the path. -/
def oddCrossings (p previous : Point α) : List (Point α) → Bool
  | [] => false
  | a :: rest => crosses p a previous ^^ oddCrossings p a rest

/-- Even-odd containment; fewer than three vertices contain nothing. -/
def contains (polygon : List (Point α)) (p : Point α) : Bool :=
  match polygon.getLast? with
  | none => false
  | some last => 3 ≤ polygon.length && oddCrossings p last polygon

end ScatterPick.Polygon
