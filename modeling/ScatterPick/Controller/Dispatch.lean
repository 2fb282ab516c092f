import ScatterPick.Controller.Lifecycle
import ScatterPick.Geometry.Gesture

/-!
# Dispatching events

What each inbound event does. `handle` lets an event through while a listener for its category is
attached; `dispatch` is the effect of an event that came through.
-/

namespace ScatterPick.Controller

variable {C : Type} [Canvas C]

/-- Shows the strip. -/
def pointerEntered (c : Controller C) : Controller C :=
  let c := { c with hud := (c.hud.setAdditive c.additive).setVisible true }
  (c.log (.hudShown c.hud.title)).draw.notify { kinds := .hudShown }

/-- Hides the strip. -/
def pointerExited (c : Controller C) : Controller C :=
  let c := { c with hud := c.hud.setVisible false }
  (c.log .hudHidden).draw.notify { kinds := .hudHidden }

/-- Switches additive mode and its title. -/
def setAdditive (c : Controller C) (additive : Bool) : Controller C :=
  { c with additive, hud := c.hud.setAdditive additive }.draw

/-- Follows the additive key down. -/
def keyPressed (c : Controller C) (key : Key) : Controller C :=
  if key = c.settings.additiveKey then (c.log (.additiveKeyDown key)).setAdditive true else c

/-- Follows the additive key up. -/
def keyReleased (c : Controller C) (key : Key) : Controller C :=
  if key = c.settings.additiveKey then c.setAdditive false else c

/-- Runs every selection callback once, in the order of their numbers. -/
def runCallbacks (c : Controller C) : Controller C :=
  c.record ((List.range c.callbacks).map fun k => .selectionCallback k c.selection.indices)

/-- What a gesture hits in the current view. -/
def outcome (c : Controller C) (vertices : List (Point Float)) : Outcome :=
  interpret c.points vertices (Canvas.view c.canvas) c.settings.clickTolerance

/-- Merges a finished gesture. A gesture that changes nothing only asks for a repaint, so that its
trail disappears. -/
def gestureFinished (c : Controller C) (vertices : List (Point Float)) : Controller C :=
  let outcome := c.outcome vertices
  let merged := c.selection.merge outcome.hits c.additive
  let c := c.log
    (.gestureRead outcome.kind vertices.length outcome.hits.size c.selection.size merged.size)
  if merged = c.selection then c.draw
  else
    let c := (c.showSelection merged).runCallbacks
    c.notify { kinds := .selectionChanged, selection := some c.selection.indices }

/-- Honours what a button callback asked for: first clearing, then disconnecting. -/
def honour (c : Controller C) (r : Requests) : Controller C :=
  let c := if r.clearSelection then c.clear else c
  if r.disconnect then c.disconnect else c

/-- Runs the callback of a button and honours its requests. -/
def buttonClicked (c : Controller C) (index : Nat) : Controller C :=
  match c.hud.click index {} with
  | none => c.log (.buttonUnknown index)
  | some (label, hud, requests) =>
    let c := { c.record [.buttonCallback index label c.selection.indices] with hud }
    let c := (c.draw.log (.buttonClicked label)).notify
      { kinds := .buttonClicked, button := some label }
    c.honour requests

/-- The effect of an event that came through. -/
def dispatch (c : Controller C) : UserEvent → Controller C
  | .pointerEnter => c.pointerEntered
  | .pointerExit => c.pointerExited
  | .keyDown key => c.keyPressed key
  | .keyUp key => c.keyReleased key
  | .gesture vertices => c.gestureFinished vertices
  | .buttonClick index => c.buttonClicked index
  | .close => c.disconnect

/-- Whether a listener of the controller waits for an event. -/
def accepts (c : Controller C) (e : UserEvent) : Bool :=
  if EventKind.interaction.contains e.kind then c.attached.any (·.kind.intersects e.kind)
  else e.kind = .close

/-- The state after an event from the canvas; one without a listener is ignored. -/
def handle (c : Controller C) (e : UserEvent) : Controller C :=
  if c.accepts e then c.dispatch e else c

end ScatterPick.Controller
