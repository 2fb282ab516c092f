import ScatterPick.Canvas.Basic

/-!
# Headless canvas

A canvas that draws nothing and counts what it is asked to do.
-/

namespace ScatterPick

/-- A canvas without a screen. -/
structure Headless where
  view : View Float
  style : CanvasStyle
  listeners : Listeners
  /-- The number of repaints asked for. -/
  redraws : Nat
  /-- Whether it was brought on screen. -/
  shown : Bool
  deriving DecidableEq

namespace Headless

/-- A canvas with a view and styles, which may have few entries. -/
def ofView (view : View Float) (style : CanvasStyle := ⟨[], []⟩) : Headless :=
  ⟨view, style, .empty, 0, false⟩

instance : Canvas Headless where
  view := view
  setView c view := { c with view }
  style := style
  setStyle c style := { c with style }
  listeners := listeners
  setListeners c listeners := { c with listeners }
  requestRedraw c := { c with redraws := c.redraws + 1 }
  present c := { c with shown := true }

end Headless

end ScatterPick
