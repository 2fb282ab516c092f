import ScatterPick.Bytes
import ScatterPick.Config.Settings
import ScatterPick.Hud.Layout
import ScatterPick.Text.Quoted

/-!
# Heads-up display

Title and action buttons above the plot. The callback of a button is known by what it requests; a
click returns the requests, and the button at rest again. A callback may keep a state of its own:
`revise` gives a button other requests to make at its next click.
-/

namespace ScatterPick

/-- The title while gestures replace the selection. -/
def replacingTitle : String := "Click or drag to select points"

/-- The title while gestures add and remove. -/
def togglingTitle : String := "Click or drag to add/remove points"

/-- The title for a state of additive mode. -/
def titleFor (additive : Bool) : String := if additive then togglingTitle else replacingTitle

/-- The picture on a button. -/
inductive Icon where
  | none
  | glyph (text : String)
  /-- A vector drawing, encoded. -/
  | drawing (bytes : Bytes)
  /-- A picture, encoded. -/
  | picture (bytes : Bytes)
  deriving DecidableEq

namespace Icon

/-- The icon that stands for synchronising. -/
def sync : Icon := glyph "\ue094"

/-- The icon that stands for disconnecting. -/
def disconnect : Icon := glyph "\ue2e4"

/-- The summary of an icon. -/
def summary : Icon → String
  | none => "None"
  | glyph text => "Glyph(" ++ Text.quoted text ++ ")"
  | drawing bytes => s!"Svg({bytes.length} bytes)"
  | picture bytes => s!"Raster({bytes.length} bytes)"

end Icon

/-- What a button callback can ask of the controller. -/
inductive Request where
  | disconnect
  | clearSelection
  deriving DecidableEq, Repr

/-- The requests made so far. -/
structure Requests where
  disconnect : Bool := false
  clearSelection : Bool := false
  deriving DecidableEq, Repr

namespace Requests

/-- Notes one request. -/
def add (r : Requests) : Request → Requests
  | .disconnect => { r with disconnect := true }
  | .clearSelection => { r with clearSelection := true }

/-- Notes requests in order. -/
def addAll (r : Requests) (requests : List Request) : Requests := requests.foldl add r

end Requests

/-- An action button. -/
structure Button where
  label : String
  icon : Icon
  hovered : Bool := false
  /-- What its callback requests at the next click. -/
  requests : List Request := []
  deriving DecidableEq

namespace Button

/-- The summary of a button. -/
def summary (b : Button) : String :=
  let visual := if b.hovered then "Hover" else "Idle"
  "ActionButton \x7b label: " ++ Text.quoted b.label ++ ", icon: " ++ b.icon.summary ++
    ", visual: " ++ visual ++ " \x7d"

end Button

/-- Title and buttons with their layout. -/
structure Hud where
  title : String
  visible : Bool
  buttons : List Button
  layout : HudSettings
  deriving DecidableEq

namespace Hud

/-- A hidden strip without title and buttons. -/
def ofLayout (layout : HudSettings) : Hud := ⟨"", false, [], layout⟩

/-- Shows or hides the strip. -/
def setVisible (h : Hud) (visible : Bool) : Hud := { h with visible }

/-- Picks the title for a state of additive mode. -/
def setAdditive (h : Hud) (additive : Bool) : Hud := { h with title := titleFor additive }

/-- Replaces the layout. -/
def setLayout (h : Hud) (layout : HudSettings) : Hud := { h with layout }

/-- Appends a button. -/
def push (h : Hud) (b : Button) : Hud := { h with buttons := h.buttons ++ [b] }

/-- Marks a button as hovered or at rest. -/
def setHover (h : Hud) (index : Nat) (hovered : Bool) : Hud :=
  { h with buttons := h.buttons.modify index fun b => { b with hovered } }

/-- Settles what the callback of a button requests from now on. -/
def revise (h : Hud) (index : Nat) (requests : List Request) : Hud :=
  { h with buttons := h.buttons.modify index fun b => { b with requests } }

/-- The rectangle of a button in fractions of the frame. -/
def buttonRect (h : Hud) (index : Nat) : FractionRect Float32 :=
  Strip.buttonRect h.layout.size h.layout.gap h.buttons.length index

/-- A click on a button: its label, the strip with the button at rest, and the requests so far. -/
def click (h : Hud) (index : Nat) (r : Requests) : Option (String × Hud × Requests) :=
  h.buttons[index]?.map fun b => (b.label, h.setHover index false, r.addAll b.requests)

end Hud

end ScatterPick
