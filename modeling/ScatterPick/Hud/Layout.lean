import ScatterPick.Geometry.Coordinate

/-!
# Strip layout

Where the heads-up buttons stand: right aligned above the frame, first in fractions of the frame
growing upwards, then on the screen growing downwards. The hover area is the frame with the strip.
-/

namespace ScatterPick

open Coordinate

/-- A rectangle in fractions of the frame, with its lower left corner. -/
structure FractionRect (α : Type) where
  x : α
  y : α
  width : α
  height : α
  deriving DecidableEq, Repr

/-- A rectangle on the screen; `top` lies above `bottom` and is the smaller number. -/
structure ScreenRect (α : Type) where
  left : α
  top : α
  right : α
  bottom : α
  deriving DecidableEq, Repr

namespace ScreenRect

variable {α : Type} [Coordinate α]

/-- The width of a rectangle. -/
def width (r : ScreenRect α) : α := r.right - r.left

/-- The height of a rectangle. -/
def height (r : ScreenRect α) : α := r.bottom - r.top

/-- Whether a place lies in a rectangle, borders included. A border that is undefined leaves nothing
inside. -/
def contains (r : ScreenRect α) (p : Point α) : Bool :=
  atMost r.left p.x && atMost p.x r.right && atMost r.top p.y && atMost p.y r.bottom

end ScreenRect

namespace Strip

variable {α : Type} [Coordinate α]

/-- The rectangle of button `index` out of `count`; the last one ends at the right border. -/
def buttonRect (size gap : α) (count index : Nat) : FractionRect α :=
  let behind : α := natural (count - 1 - index)
  { x := natural 1 - (behind + natural 1) * size - behind * gap
    y := natural 1 + gap
    width := size
    height := size }

/-- A rectangle in fractions of the frame as it stands on the screen. -/
def onScreen (frame : ScreenRect α) (r : FractionRect α) : ScreenRect α :=
  let left := frame.left + r.x * frame.width
  let bottom := frame.bottom - r.y * frame.height
  { left
    top := bottom - r.height * frame.height
    right := left + r.width * frame.width
    bottom }

/-- The height of the strip that is kept free above the frame. -/
def height (available size gap : α) : α := available * (size + natural 2 * gap)

/-- The area in which the pointer counts as being over the plot: the frame and the strip. -/
def hoverArea (frame : ScreenRect α) (strip : α) : ScreenRect α :=
  { frame with top := frame.top - strip }

end Strip

end ScatterPick
