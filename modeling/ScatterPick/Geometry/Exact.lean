import Mathlib.Algebra.Order.Field.Basic
import ScatterPick.Geometry.Coordinate

/-!
# Exact coordinates

The arithmetic of an ordered field, in which nothing is rounded and every value is an ordinary
number. Such a field need not have square roots, so the length of a vector is left open.
-/

namespace ScatterPick.Coordinate

variable {α : Type} [Field α] [LinearOrder α]

/-- Exact arithmetic with a given length of vectors. -/
abbrev exact (length : α → α → α) : Coordinate α where
  zero := 0
  natural n := n
  abs a := |a|
  less a b := decide (a < b)
  atMost a b := decide (a ≤ b)
  isFinite _ := true
  isUndefined _ := false
  length := length

end ScatterPick.Coordinate
