import ScatterPick.Geometry.Coordinate

/-!
# Views

The visible range of both axes. `around` fits the points as tightly as possible and falls back to
the unit square unless all four sides come out as ordinary numbers.
-/

namespace ScatterPick

open Coordinate

/-- A range of an axis, in the order in which it was given. -/
structure Range (α : Type) where
  first : α
  last : α
  deriving DecidableEq, Repr

/-- The distance between the ends of a range. -/
def Range.extent {α : Type} [Coordinate α] (r : Range α) : α := abs (r.last - r.first)

/-- The visible ranges of a plot. -/
structure View (α : Type) where
  x : Range α
  y : Range α
  deriving DecidableEq, Repr

namespace View

variable {α : Type} [Coordinate α]

/-- The square from zero to one. -/
def unit : View α := ⟨⟨natural 0, natural 1⟩, ⟨natural 0, natural 1⟩⟩

/-- The visible width. -/
def width (v : View α) : α := v.x.extent

/-- The visible height. -/
def height (v : View α) : α := v.y.extent

end View

/-- The least value of a list, undefined ones left out, where `top` bounds them all. -/
def least {α : Type} [Coordinate α] (top : α) (xs : List α) : α := xs.foldl smaller top

/-- The greatest value of a list, undefined ones left out, where `bottom` bounds them all. -/
def greatest {α : Type} [Coordinate α] (bottom : α) (xs : List α) : α := xs.foldl greater bottom

/-- The tight range of a list of doubles; an infinite end shows that there is none. -/
def tightRange (xs : List Float) : Range Float := ⟨least (1.0 / 0.0) xs, greatest (-1.0 / 0.0) xs⟩

namespace View

/-- The tight view of the points, or the unit square if a side is no ordinary number. -/
def around (points : List (Point Float)) : View Float :=
  let x := tightRange (points.map (·.x))
  let y := tightRange (points.map (·.y))
  if x.first.isFinite && x.last.isFinite && y.first.isFinite && y.last.isFinite then ⟨x, y⟩
  else unit

/-- Equality of numbers, side by side: an undefined side differs from itself. -/
def agrees (v w : View Float) : Bool :=
  v.x.first == w.x.first && v.x.last == w.x.last && v.y.first == w.y.first && v.y.last == w.y.last

end View

end ScatterPick
