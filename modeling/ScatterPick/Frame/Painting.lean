import ScatterPick.Canvas.Windowed
import ScatterPick.Controller.Basic
import ScatterPick.Frame.Marker

/-!
# Painting

What one frame shows: the points by their style, the outline of a trail, the count of selected
points, and the strip while it is visible.
-/

namespace ScatterPick

/-- What a frame shows. -/
structure Painting where
  /-- The markers of the points, from back to front. -/
  markers : List MarkerRun
  /-- The closed outline of the trail. -/
  outline : Option (List (Point Float))
  texts : List String
  /-- For each button that is shown, whether it is filled as hovered. -/
  buttons : List Bool
  /-- The view that the plot is asked to fit. -/
  fit : Option (View Float)

/-- The outline of a trail of several vertices: it returns to the first one. -/
def outlineOf (trail : List (Point Float)) : Option (List (Point Float)) :=
  if 1 < trail.length then some (trail ++ trail.head?.toList) else none

/-- The share of the extent by which a fitted view reaches beyond the points. -/
def marginShare : Float := 0.05

/-- The least distance by which a fitted view reaches beyond the points, the spacing of doubles
at one. -/
def leastMargin : Float := 2.220446049250313e-16

/-- A range with a margin at both ends. -/
def Range.padded (r : Range Float) : Range Float :=
  let margin := Coordinate.greater (r.extent * marginShare) leastMargin
  ⟨r.first - margin, r.last + margin⟩

/-- The view to fit some points into. -/
def View.fitted (points : List (Point Float)) : View Float :=
  let tight := View.around points
  ⟨tight.x.padded, tight.y.padded⟩

namespace Controller

/-- The line that counts the selected points. -/
def countLine (c : Controller Windowed) : String :=
  let selected := c.selection.size
  let total := c.points.length
  s!"{selected} of {total} points selected"

/-- The texts of a frame; a title without letters does not show. -/
def texts (c : Controller Windowed) : List String :=
  c.countLine :: if c.hud.visible && !c.hud.title.isEmpty then [c.hud.title] else []

/-- What the next frame shows. -/
def painting (c : Controller Windowed) : Painting where
  markers :=
    let look := c.canvas.look
    MarkerRun.join (MarkerRun.ofGroups look 0 (groupByStyle c.points c.canvas.style look.radius))
  outline := c.canvas.trail.bind outlineOf
  texts := c.texts
  buttons := if c.hud.visible then c.hud.buttons.map (·.hovered) else []
  fit := if c.canvas.fitted then none else some (.fitted c.points)

end Controller

end ScatterPick
