import ScatterPick.Event.Listeners
import ScatterPick.Geometry.View
import ScatterPick.Style.Marker

/-!
# Canvases

What the controller asks of the surface that shows the points.
-/

namespace ScatterPick

/-- A surface that shows the points, reports its view and keeps the listeners. -/
class Canvas (C : Type) where
  /-- The visible ranges. -/
  view : C → View Float
  /-- Changes the visible ranges. -/
  setView : C → View Float → C
  /-- The styles as the canvas holds them. -/
  style : C → CanvasStyle
  /-- Takes over styles. -/
  setStyle : C → CanvasStyle → C
  /-- The attached listeners. -/
  listeners : C → Listeners
  /-- Replaces the attached listeners. -/
  setListeners : C → Listeners → C
  /-- Asks for a repaint. -/
  requestRedraw : C → C
  /-- Brings the plot on screen. -/
  present : C → C

namespace Canvas

variable {C : Type} [Canvas C]

/-- Attaches a listener. -/
def subscribe (c : C) (kind : EventKind) : C := setListeners c ((listeners c).add kind)

/-- Detaches a listener. -/
def unsubscribe (c : C) (id : Nat) : C := setListeners c ((listeners c).remove id)

/-- Whether a listener covers a category. -/
def isListening (c : C) (kind : EventKind) : Bool := (listeners c).isListening kind

end Canvas

end ScatterPick
