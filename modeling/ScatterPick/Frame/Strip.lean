import ScatterPick.Canvas.Windowed
import ScatterPick.Controller.Basic
import ScatterPick.Frame.Input

/-!
# The strip in a frame

While the strip is visible each frame shows its buttons: it decodes icons that were not shown
before, and takes over which buttons are hovered.
-/

namespace ScatterPick.Controller

/-- The height of a button in whole pixels, at least one. -/
def buttonPixels (i : FrameInput) (hud : Hud) (index : Nat) : Nat :=
  let height := (Strip.onScreen i.frame (hud.buttonRect index)).height
  (Coordinate.greater height 1.0).round.toUInt32.toNat

/-- Shows a button: looks up its icon, logs a failure, and takes over whether it is hovered. -/
def showButton (d : Decoders) (i : FrameInput) (c : Controller Windowed) (index : Nat) :
    Controller Windowed :=
  match c.hud.buttons[index]? with
  | none => c
  | some b =>
    let (icons, found) := c.canvas.icons.lookup d index b.icon (buttonPixels i c.hud index)
    let c := { c with
      canvas := { c.canvas with icons }
      hud := c.hud.setHover index (i.touch index).hovered }
    match found.failure? with
    | some cause => c.log (.iconFailed index cause)
    | none => c

/-- The buttons that a frame shows. -/
def shownButtons (c : Controller Windowed) : List Nat :=
  if c.hud.visible then List.range c.hud.buttons.length else []

/-- The state after the buttons of a frame are shown. -/
def showButtons (d : Decoders) (i : FrameInput) (c : Controller Windowed) : Controller Windowed :=
  c.shownButtons.foldl (showButton d i) c

/-- Whether the pointer hovers a button. -/
def overButton (i : FrameInput) (c : Controller Windowed) : Bool :=
  c.shownButtons.any fun index => (i.touch index).hovered

/-- The clicks on buttons, while they are waited for. -/
def clickEvents (i : FrameInput) (c : Controller Windowed) : List UserEvent :=
  (c.shownButtons.filter fun index =>
    (i.touch index).clicked && Canvas.isListening c.canvas .buttonClick).map .buttonClick

end ScatterPick.Controller
