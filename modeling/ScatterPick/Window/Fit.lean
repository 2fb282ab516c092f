import ScatterPick.Geometry.View

/-!
# Views that can be shown

A plot can only show ranges of positive extent. A range without one is widened around its middle to
the extent of the other axis, if that has one; a range with an infinite end is given up.
-/

namespace ScatterPick

namespace Range

/-- Whether both ends are ordinary numbers. -/
def isFinite (r : Range Float) : Bool := r.first.isFinite && r.last.isFinite

/-- The length of a range from its first to its last end. -/
def span (r : Range Float) : Float := r.last - r.first

/-- The range of a given length around a middle. -/
def around (middle length : Float) : Range Float := ⟨middle - length / 2.0, middle + length / 2.0⟩

/-- The range that is shown for `r` where the other axis is asked to show `other`. -/
def mended (r other : Range Float) : Range Float :=
  if !r.isFinite then ⟨-1.0, 1.0⟩
  else if r.span ≤ 0.0 then
    around ((r.first + r.last) / 2.0)
      (if other.isFinite && 0.0 < other.span then other.span else 1.0)
  else r

/-- The place of a value in a range, as a share of its length. -/
def shareOf (r : Range Float) (x : Float) : Float := (x - r.first) / r.span

/-- The value at a share of the length of a range. -/
def atShare (r : Range Float) (share : Float) : Float := r.first + share * r.span

end Range

namespace View

/-- The view that is shown when `v` is asked for. -/
def mended (v : View Float) : View Float := ⟨v.x.mended v.y, v.y.mended v.x⟩

/-- The view that is shown before any is asked for. -/
def initial : View Float := ⟨⟨-1.0, 1.0⟩, ⟨-1.0, 1.0⟩⟩

end View

end ScatterPick
