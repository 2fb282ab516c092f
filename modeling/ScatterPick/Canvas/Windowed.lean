import ScatterPick.Canvas.Basic
import ScatterPick.Config.Settings
import ScatterPick.Hud.PictureCache

/-!
# Windowed canvas

The canvas that is drawn frame by frame. Beside what every canvas keeps it remembers what the last
frame saw: whether the pointer was over the plot, whether the additive key was held, and the trail
of a gesture that goes on.
-/

namespace ScatterPick

/-- A canvas in a window. -/
structure Windowed where
  view : View Float
  style : CanvasStyle
  look : MarkerLook
  listeners : Listeners
  /-- Whether a repaint was asked for. -/
  dirty : Bool
  /-- Whether the view was fitted to the points. -/
  fitted : Bool
  /-- Whether the pointer was over the plot in the last frame. -/
  pointerInside : Bool
  /-- Whether the additive key was held in the last frame. -/
  keyHeld : Bool
  /-- The vertices of a gesture that goes on. -/
  trail : Option (List (Point Float))
  icons : PictureCache

namespace Windowed

/-- A canvas before its first frame. All points share one marker, whose size is its area. -/
def ofLook (look : MarkerLook) : Windowed where
  view := .unit
  style := ⟨[1.0], [.ofSingle (look.radius * look.radius)]⟩
  look := look
  listeners := .empty
  dirty := true
  fitted := false
  pointerInside := false
  keyHeld := false
  trail := none
  icons := .empty

instance : Canvas Windowed where
  view := view
  setView c view := { c with view }
  style := style
  setStyle c style := { c with style }
  listeners := listeners
  setListeners c listeners := { c with listeners }
  requestRedraw c := { c with dirty := true }
  present c := c

end Windowed

end ScatterPick
