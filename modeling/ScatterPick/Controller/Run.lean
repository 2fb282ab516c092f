import ScatterPick.Controller.Dispatch

/-!
# Runs

Everything that can happen to a controller between two frames, as data, and runs as folds.
-/

namespace ScatterPick

/-- One thing that happens to a controller. -/
inductive Step where
  | connect
  | disconnect
  | draw
  | present
  | clear
  /-- An event from the canvas. -/
  | handle (event : UserEvent)
  /-- An event past the check for listeners. -/
  | dispatch (event : UserEvent)
  | select (indices : List Nat)
  | addCallback
  | register (label : String) (icon : Icon) (requests : List Request)
  | registerSync (requests : List Request)
  | registerDisconnect
  /-- The callback of a button, which may keep a state, settles its next requests. -/
  | revise (index : Nat) (requests : List Request)
  | setView (view : View Float)
  | setHover (index : Nat) (hovered : Bool)
  | setVisible (visible : Bool)
  | setTitle (additive : Bool)
  | setLayout (layout : HudSettings)
  /-- A click on the strip alone, whose requests nobody honours. -/
  | clickHud (index : Nat)
  /-- A listener of the host program on the canvas. -/
  | listen (kind : EventKind)
  | unlisten (id : Nat)
  /-- Styles that the host program hands to the canvas. -/
  | setStyle (style : CanvasStyle)
  | subscribe (mask : EventKind)
  | dropReceiver (receiver : Nat)
  /-- The subscribers take what waits for them. -/
  | drain
  /-- A notice of the host program. -/
  | emit (notice : Notice)

namespace Controller

variable {C : Type} [Canvas C]

/-- The state after one step. -/
def step (c : Controller C) : Step → Controller C
  | .connect => c.connect
  | .disconnect => c.disconnect
  | .draw => c.draw
  | .present => c.present
  | .clear => c.clear
  | .handle event => c.handle event
  | .dispatch event => c.dispatch event
  | .select indices => c.select indices
  | .addCallback => c.addCallback
  | .register label icon requests => c.register label icon requests
  | .registerSync requests => c.registerSync requests
  | .registerDisconnect => c.registerDisconnect
  | .revise index requests => { c with hud := c.hud.revise index requests }
  | .setView view => { c with canvas := Canvas.setView c.canvas view }
  | .setHover index hovered => { c with hud := c.hud.setHover index hovered }
  | .setVisible visible => { c with hud := c.hud.setVisible visible }
  | .setTitle additive => { c with hud := c.hud.setAdditive additive }
  | .setLayout layout => { c with hud := c.hud.setLayout layout }
  | .clickHud index =>
    match c.hud.click index {} with
    | none => c
    | some (label, hud, _) => { c.record [.buttonCallback index label []] with hud }
  | .listen kind => { c with canvas := Canvas.subscribe c.canvas kind }
  | .unlisten id => { c with canvas := Canvas.unsubscribe c.canvas id }
  | .setStyle style => { c with canvas := Canvas.setStyle c.canvas style }
  | .subscribe mask => { c with bus := c.bus.subscribe mask }
  | .dropReceiver receiver => { c with bus := c.bus.drop receiver }
  | .drain => { c with bus := c.bus.drain }
  | .emit notice => { c with bus := c.bus.emit notice }

/-- The state after a sequence of steps. -/
def run (c : Controller C) (steps : List Step) : Controller C := steps.foldl step c

end Controller

end ScatterPick
