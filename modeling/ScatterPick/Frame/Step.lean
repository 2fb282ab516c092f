import ScatterPick.Controller.Run
import ScatterPick.Frame.Observation
import ScatterPick.Frame.Painting
import ScatterPick.Frame.Strip

/-!
# Frames

A frame first shows the strip, then notes what the window tells, and at its end hands the events to
the controller in the order in which they were noted.
-/

namespace ScatterPick.Controller

/-- The state before the events of a frame are handled, and these events: clicks on buttons come
first. -/
def observeFrame (d : Decoders) (i : FrameInput) (c : Controller Windowed) :
    Controller Windowed × List UserEvent :=
  let shown := c.showButtons d i
  let (canvas, events) :=
    shown.canvas.observe i c.hud.layout c.settings.additiveKey (c.overButton i)
  ({ shown with canvas }, c.clickEvents i ++ events)

/-- The events of a frame. -/
def frameEvents (d : Decoders) (i : FrameInput) (c : Controller Windowed) : List UserEvent :=
  (c.observeFrame d i).2

/-- Closes a frame: the view is fitted, and a repaint that was asked for is on its way. -/
def endFrame (c : Controller Windowed) : Controller Windowed :=
  { c with canvas := { c.canvas with fitted := true, dirty := false } }

/-- The state after a frame. -/
def frame (d : Decoders) (i : FrameInput) (c : Controller Windowed) : Controller Windowed :=
  let (observed, events) := c.observeFrame d i
  (events.foldl handle observed).endFrame

/-- What happens to a controller on a windowed canvas. -/
inductive WindowStep where
  /-- A frame passes. -/
  | frame (input : FrameInput)
  /-- The host program does something. -/
  | host (step : Step)

/-- The state after what happens. -/
def windowStep (d : Decoders) (c : Controller Windowed) : WindowStep → Controller Windowed
  | .frame input => c.frame d input
  | .host step => c.step step

/-- The state after a sequence of frames and host steps. -/
def runWindow (d : Decoders) (c : Controller Windowed) (steps : List WindowStep) :
    Controller Windowed :=
  steps.foldl (windowStep d) c

end ScatterPick.Controller
