import ScatterPick.Canvas.Basic
import ScatterPick.Config.Sanitize
import ScatterPick.Event.Broadcast
import ScatterPick.Event.Input
import ScatterPick.Hud.Basic
import ScatterPick.Log

/-!
# Selection controller

The controller joins the points with their selection, its style and the heads-up strip, and shows
all of it on a canvas. What leaves it, to the log, to callbacks and to subscribers, is kept in the
order of its making as `trace`.
-/

namespace ScatterPick

/-- Something that left the controller. -/
inductive Effect where
  | logged (entry : LogEntry)
  /-- A selection callback ran, by its number. -/
  | selectionCallback (number : Nat) (selected : List Nat)
  /-- The callback of a button ran, by the index of the button. -/
  | buttonCallback (index : Nat) (label : String) (selected : List Nat)
  | notified (notice : Notice)
  deriving DecidableEq

/-- The state of a selection plot on a canvas of type `C`. -/
structure Controller (C : Type) where
  canvas : C
  points : List (Point Float)
  /-- Sanitized settings. -/
  settings : SelectionSettings
  selection : Selection
  styles : MarkerStyles
  /-- Whether gestures add and remove. -/
  additive : Bool
  hud : Hud
  /-- The listeners that `connect` attached. -/
  attached : List Listener
  /-- The listener for closing. -/
  closeListener : Nat
  /-- The number of selection callbacks. -/
  callbacks : Nat
  /-- Whether notices go to the subscribers. -/
  publishes : Bool
  bus : Broadcast
  trace : List Effect

namespace Controller

variable {C : Type} [Canvas C]

/-- Whether the interaction listeners are attached. -/
def isConnected (c : Controller C) : Bool := !c.attached.isEmpty

/-- Whether any point is selected. -/
def hasSelection (c : Controller C) : Bool := !c.selection.isEmpty

/-- Appends to the trace. -/
def record (c : Controller C) (effects : List Effect) : Controller C :=
  { c with trace := c.trace ++ effects }

/-- Logs an entry. -/
def log (c : Controller C) (entry : LogEntry) : Controller C := c.record [.logged entry]

/-- Sends a notice to the subscribers. -/
def notify (c : Controller C) (notice : Notice) : Controller C :=
  if c.publishes then { c.record [.notified notice] with bus := c.bus.emit notice } else c

/-- Asks the canvas for a repaint. -/
def draw (c : Controller C) : Controller C := { c with canvas := Canvas.requestRedraw c.canvas }

/-- Brings the plot on screen. -/
def present (c : Controller C) : Controller C := { c with canvas := Canvas.present c.canvas }

/-- The styles as a canvas takes them. -/
def canvasStyle (c : Controller C) : CanvasStyle := ⟨c.styles.alphas, c.styles.sizes⟩

/-- A disconnected controller of a canvas with nothing selected. Only closing is listened for. -/
def new (canvas : C) (points : List (Point Float)) (settings : SelectionSettings)
    (layout : HudSettings := {}) (publishes : Bool := true) : Controller C where
  canvas := Canvas.subscribe canvas .close
  points := points
  settings := settings.sanitized
  selection := .empty
  styles := .ofCanvas points.length (Canvas.style canvas).alphas (Canvas.style canvas).sizes
  additive := false
  hud := .ofLayout layout
  attached := []
  closeListener := (Canvas.listeners canvas).next
  callbacks := 0
  publishes := publishes
  bus := .empty
  trace := settings.warnings.map .logged

/-- The controller with a broadcast that takes its notices. -/
def withEvents (c : Controller C) (bus : Broadcast) : Controller C :=
  { c with publishes := true, bus }

end Controller

end ScatterPick
