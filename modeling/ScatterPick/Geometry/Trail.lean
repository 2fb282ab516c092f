import ScatterPick.Geometry.View

/-!
# Trails

A trail is the list of vertices recorded between pointer press and release. Its travel is the
Manhattan length; a travel below the threshold makes it a click.
-/

namespace ScatterPick

open Coordinate

/-- How a finished gesture is read. -/
inductive GestureKind where
  | click
  | drag
  deriving DecidableEq, Repr

namespace Trail

variable {α : Type} [Coordinate α]

/-- The Manhattan distance of two points. -/
def stepLength (p q : Point α) : α := abs (q.x - p.x) + abs (q.y - p.y)

/-- The lengths of the steps of a trail. -/
def steps : List (Point α) → List α
  | p :: q :: rest => stepLength p q :: steps (q :: rest)
  | _ => []

/-- The Manhattan length of a trail, summed from its first step on. -/
def travel (vertices : List (Point α)) : α := (steps vertices).foldl (· + ·) zero

/-- The travel below which a gesture is a click: a fraction of the smaller visible extent. -/
def threshold (view : View α) (tolerance : α) : α :=
  tolerance * smaller view.width view.height

/-- A single vertex is always a click. -/
def classify (vertices : List (Point α)) (threshold : α) : GestureKind :=
  if vertices.length < 2 || less (travel vertices) threshold then .click else .drag

end Trail

end ScatterPick
