import ScatterPick.Number.Hypot

/-!
# Coordinates

The arithmetic of plot coordinates. Hit testing is written once over this class: the program runs
it on doubles, and laws of exact arithmetic are laws about the same functions on other instances.
-/

namespace ScatterPick

/-- What hit testing, framing and layout ask of a coordinate. -/
class Coordinate (α : Type) extends Add α, Sub α, Mul α, Div α where
  /-- The start of a sum, which added to a number leaves it alone. -/
  zero : α
  /-- A natural number as a coordinate. -/
  natural : Nat → α
  /-- The distance from zero. -/
  abs : α → α
  /-- The strict order; an undefined number is neither above nor below another. -/
  less : α → α → Bool
  /-- The order with equality; an undefined number is at most no number, and no number is at most
  it. -/
  atMost : α → α → Bool
  /-- Whether a value is an ordinary number. -/
  isFinite : α → Bool
  /-- Whether a value is undefined. -/
  isUndefined : α → Bool
  /-- The length of the vector with two given components. -/
  length : α → α → α

namespace Coordinate

variable {α : Type} [Coordinate α]

/-- The smaller of two values; an undefined one loses, and the first wins a tie. -/
def smaller (a b : α) : α := if isUndefined a then b else if less b a then b else a

/-- The greater of two values; an undefined one loses, and the first wins a tie. -/
def greater (a b : α) : α := if isUndefined a then b else if less a b then b else a

end Coordinate

/-- Double arithmetic with a given length of vectors. Negative zero is the neutral start of a
sum. -/
abbrev Coordinate.doubles (length : Float → Float → Float) : Coordinate Float where
  zero := -0.0
  natural n := Float.ofNat n
  abs := Float.abs
  less a b := a < b
  atMost a b := a ≤ b
  isFinite := Float.isFinite
  isUndefined := Float.isNaN
  length := length

/-- The arithmetic of the plot. -/
instance : Coordinate Float := .doubles Number.hypot

/-- Single arithmetic, in which the screen is measured. -/
instance : Coordinate Float32 where
  zero := -0.0
  natural := Number.singleOfNat
  abs := Float32.abs
  less a b := a < b
  atMost a b := a ≤ b
  isFinite := Float32.isFinite
  isUndefined := Float32.isNaN
  length a b := Number.narrow (Number.hypot (Number.widen a) (Number.widen b))

/-- A point of the plot. -/
structure Point (α : Type) where
  x : α
  y : α
  deriving DecidableEq, Repr

end ScatterPick
