import ScatterPick.Geometry.Coordinate

/-!
# Recording a trail

A press that counts starts a trail with the place of the pointer, each frame with the button down
appends the place unless it is the last vertex, and a release ends the trail.
-/

namespace ScatterPick.Recorder

/-- What a frame tells about the primary button. -/
structure Input where
  /-- Whether a press counts: over the frame, not over a button, and waited for. -/
  accepted : Bool
  /-- Whether the button is down at the end of the frame. -/
  down : Bool
  /-- Whether the button went up. -/
  released : Bool
  /-- The place of the pointer in the plot. -/
  place : Option (Point Float)

/-- Whether two vertices are the same place, compared as numbers. -/
def samePlace (p q : Point Float) : Bool := p.x == q.x && p.y == q.y

/-- Appends a vertex unless it is the last one. -/
def extend (trail : List (Point Float)) (p : Point Float) : List (Point Float) :=
  match trail.getLast? with
  | some last => if samePlace last p then trail else trail ++ [p]
  | none => trail ++ [p]

/-- The trail after a press that counts; without a place there is none. -/
def start (i : Input) (trail : Option (List (Point Float))) : Option (List (Point Float)) :=
  if i.accepted then i.place.map ([·]) else trail

/-- The trail after the movement of the frame. -/
def follow (i : Input) (trail : Option (List (Point Float))) : Option (List (Point Float)) :=
  match i.down, trail, i.place with
  | true, some vertices, some p => some (extend vertices p)
  | _, trail, _ => trail

/-- The trail that goes on after a frame, and the one that ended in it. -/
def step (i : Input) (trail : Option (List (Point Float))) :
    Option (List (Point Float)) × Option (List (Point Float)) :=
  let trail := follow i (start i trail)
  if i.released then (none, trail) else (trail, none)

end ScatterPick.Recorder
