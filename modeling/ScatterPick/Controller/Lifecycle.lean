import ScatterPick.Controller.Basic

/-!
# Connecting, selecting and registering

What a host program does with a controller. `connect` and `disconnect` do nothing in the state
that they lead to.
-/

namespace ScatterPick.Controller

variable {C : Type} [Canvas C]

/-- The categories that a connected controller listens for, in the order of attaching. -/
def interactionKinds : List EventKind :=
  [.gesture, .buttonClick, .pointerEnter, .pointerExit, .keyDown, .keyUp]

/-- Attaches one listener. -/
def attach (c : Controller C) (kind : EventKind) : Controller C :=
  { c with
    canvas := Canvas.subscribe c.canvas kind
    attached := c.attached ++ [⟨(Canvas.listeners c.canvas).next, kind⟩] }

/-- Takes the strip back to the hidden state, with the title of the current mode. -/
def resetHud (c : Controller C) : Controller C :=
  { c with hud := (c.hud.setAdditive c.additive).setVisible false }

/-- Attaches the interaction listeners. -/
def connect (c : Controller C) : Controller C :=
  if c.isConnected then c
  else
    let c := (interactionKinds.foldl attach c).resetHud
    let c := c.log (.connected c.points.length c.hud.buttons.length)
    c.notify { kinds := .connected }

/-- Detaches everything that `connect` attached. -/
def disconnect (c : Controller C) : Controller C :=
  if c.isConnected then
    let canvas := c.attached.foldl (fun canvas l => Canvas.unsubscribe canvas l.id) c.canvas
    let c := { c with canvas, attached := [], additive := false }.resetHud
    (c.log .disconnected).notify { kinds := .disconnected }
  else c

/-- Replaces the selection and shows it. -/
def showSelection (c : Controller C) (selection : Selection) : Controller C :=
  let c := { c with selection, styles := c.styles.apply selection c.settings.emphasis }
  { c with canvas := Canvas.setStyle c.canvas c.canvasStyle }.draw

/-- Replaces the selection by the indices that belong to points, without selection callbacks. -/
def select (c : Controller C) (indices : List Nat) : Controller C :=
  let (selection, dropped) := (Selection.ofList indices).bounded c.points.length
  let c := if dropped = 0 then c else c.log (.indicesIgnored dropped c.points.length)
  let c := c.showSelection selection
  c.notify { kinds := .selectionSet, selection := some c.selection.indices }

/-- Selects nothing. -/
def clear (c : Controller C) : Controller C := c.select []

/-- Adds a selection callback; its number is `c.callbacks`. -/
def addCallback (c : Controller C) : Controller C := { c with callbacks := c.callbacks + 1 }

/-- Appends a button whose callback makes the given requests. -/
def register (c : Controller C) (label : String) (icon : Icon) (requests : List Request) :
    Controller C :=
  let c := c.log (.buttonRegistered label)
  { c with hud := c.hud.push { label, icon, requests } }

/-- Appends the button that synchronises. -/
def registerSync (c : Controller C) (requests : List Request := []) : Controller C :=
  c.register "sync" .sync requests

/-- Appends the button that disconnects. -/
def registerDisconnect (c : Controller C) : Controller C :=
  c.register "disconnect" .disconnect [.disconnect]

end ScatterPick.Controller
