import ScatterPick.Config.Settings
import ScatterPick.Frame.KeyTracking
import ScatterPick.Geometry.View
import ScatterPick.Hud.Layout

/-!
# Input of a frame

What the window tells the plot in one frame.
-/

namespace ScatterPick

/-- What the pointer does to a button. -/
structure ButtonTouch where
  hovered : Bool := false
  clicked : Bool := false
  deriving DecidableEq, Repr

/-- The input of one frame. -/
structure FrameInput where
  /-- The height that strip and plot share. -/
  available : Float32
  /-- The rectangle of the plot on the screen. -/
  frame : ScreenRect Float32
  /-- The view that the plot shows. -/
  view : View Float
  /-- Where the pointer is on the screen. -/
  pointer : Option (Point Float32)
  /-- Where the pointer is in the plot. -/
  place : Option (Point Float)
  /-- Whether the primary button went down. -/
  pressed : Bool
  /-- Whether the primary button is down. -/
  down : Bool
  /-- Whether the primary button went up. -/
  released : Bool
  /-- What the pointer does to the buttons of the strip. -/
  touches : List ButtonTouch
  modifiers : Modifiers
  strokes : List KeyStroke
  /-- Whether the window is asked to close. -/
  closing : Bool

namespace FrameInput

/-- What the pointer does to a button. -/
def touch (i : FrameInput) (index : Nat) : ButtonTouch := i.touches[index]?.getD {}

/-- Whether the pointer is in the plot. -/
def inFrame (i : FrameInput) : Bool := i.pointer.any i.frame.contains

/-- Whether the pointer is over the plot or the strip above it. -/
def inside (i : FrameInput) (layout : HudSettings) : Bool :=
  i.pointer.any
    (Strip.hoverArea i.frame (Strip.height i.available layout.size layout.gap)).contains

end FrameInput

end ScatterPick
