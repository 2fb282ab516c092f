import ScatterPick.Hud.Basic
import ScatterPick.Window.Fit

/-!
# Layout of the window

Where the plot stands in a window of 900 by 700 pixels, and the places in it that a pointer can be
sent to. Sides that carry texts are taken at round numbers of pixels.
-/

namespace ScatterPick.Window

/-- The top of the area that strip and plot share. -/
def top : Float32 := 26.0

/-- The height that strip, plot and the labels below it share. -/
def available : Float32 := 666.0

/-- The rectangle of the plot below the strip. -/
def frameRect (layout : HudSettings) : ScreenRect Float32 where
  left := 42.0
  top := top + Strip.height available layout.size layout.gap
  right := 892.0
  bottom := 672.0

/-- The rectangle of a button. -/
def buttonRect (hud : Hud) (index : Nat) : ScreenRect Float32 :=
  Strip.onScreen (frameRect hud.layout) (hud.buttonRect index)

/-- Where a pointer is sent to. -/
inductive Place where
  /-- A point of the plot. -/
  | plot (p : Point Float)
  /-- Shares of width and height of the plot, from its lower left corner. -/
  | share (x y : Float)
  /-- The middle of a button. -/
  | button (index : Nat)
  /-- The corner of the window. -/
  | corner

/-- The screen position at shares of width and height of a rectangle, in whole pixels. -/
def positionAt (r : ScreenRect Float32) (x y : Float) : Point Float32 :=
  ⟨(r.left + x.toFloat32 * r.width).round, (r.bottom - y.toFloat32 * r.height).round⟩

/-- The shares of width and height of a rectangle at a screen position. -/
def sharesAt (r : ScreenRect Float32) (p : Point Float32) : Float × Float :=
  ((p.x.toFloat - r.left.toFloat) / (r.right.toFloat - r.left.toFloat),
    (r.bottom.toFloat - p.y.toFloat) / (r.bottom.toFloat - r.top.toFloat))

/-- The screen position of a place. -/
def Place.position (view : View Float) (hud : Hud) : Place → Point Float32
  | plot p => positionAt (frameRect hud.layout) (view.x.shareOf p.x) (view.y.shareOf p.y)
  | share x y => positionAt (frameRect hud.layout) x y
  | button index => positionAt (buttonRect hud index) 0.5 0.5
  | corner => ⟨0.0, 0.0⟩

/-- The point of the plot at a screen position. -/
def pointAt (view : View Float) (hud : Hud) (p : Point Float32) : Point Float :=
  let (x, y) := sharesAt (frameRect hud.layout) p
  ⟨view.x.atShare x, view.y.atShare y⟩

end ScatterPick.Window
