import ScatterPick.Number.Binary

/-!
# Length of a vector

The length of a vector in doubles, with one correction of the rounded square root. No square may
over- or underflow, so components that are very large or very small are scaled by a power of two.
Mathematics libraries differ in the last digit of a length; this is what a widespread one computes
where products and sums are rounded apart.
-/

namespace ScatterPick.Number

/-- The greatest natural number whose square is at most `n`. -/
def floorSqrt (n : Nat) : Nat :=
  if h : n = 0 then 0
  else
    let r := 2 * floorSqrt (n / 4)
    if (r + 1) * (r + 1) ≤ n then r + 1 else r
termination_by n
decreasing_by omega

/-- The number nearest to the square root of `n * 4 ^ e`. -/
def Format.roundSqrt (f : Format) (n : Nat) (e : Int) : Binary :=
  let scale := 2 * f.precision
  let scaled := n * Nat.pow 4 scale
  let root := floorSqrt scaled
  let sticky := if root * root = scaled then 0 else 1
  let e := e - (scale : Int) - 1
  f.round false ((2 * root + sticky) * twoPow e) (twoPow (-e))

/-- The double nearest to the square root; a negative number has none. -/
def sqrt (x : Float) : Float :=
  match Binary.ofDouble x with
  | .finite _ 0 _ => x
  | .finite false m e =>
    (double.roundSqrt (if e % 2 = 0 then m else 2 * m) (e / 2)).toDouble
  | .infinity false => x
  | _ => Binary.toDouble .nan

/-- The double `2 ^ e`, for an exponent that the format has. -/
def powerOfTwo (e : Int) : Float := (double.round false (twoPow e) (twoPow (-e))).toDouble

namespace Hypot

/-- Above this the square of the greater component might overflow. -/
def large : Float := powerOfTwo 511

/-- Below this the square of the smaller component might lose digits. -/
def tiny : Float := powerOfTwo (-459)

/-- The factor that brings a large component within reach. -/
def scale : Float := powerOfTwo (-600)

/-- The share of the greater component up to which the smaller one is only added to it. -/
def negligible : Float := powerOfTwo (-54)

/-- The root `h` of the sum of the squares, corrected once: the error is what the square of `h` has
beyond that sum, put together from differences so that little of it is lost. -/
def corrected (greater lesser : Float) : Float :=
  let h := sqrt (greater * greater + lesser * lesser)
  let error :=
    if h ≤ 2.0 * lesser then
      let delta := h - lesser
      greater * (2.0 * delta - greater) + (delta - 2.0 * (greater - lesser)) * delta
    else
      let delta := h - greater
      2.0 * delta * (greater - 2.0 * lesser) + ((4.0 * delta - lesser) * lesser + delta * delta)
  h - error / (2.0 * h)

/-- The length of a vector with finite components, the greater one first. -/
def ofOrdered (greater lesser : Float) : Float :=
  if large < greater then
    if lesser ≤ greater * negligible then greater + lesser
    else corrected (greater * scale) (lesser * scale) / scale
  else if lesser < tiny then
    if lesser / negligible ≤ greater then greater + lesser
    else corrected (greater / scale) (lesser / scale) * scale
  else if lesser ≤ greater * negligible then greater + lesser
  else corrected greater lesser

end Hypot

/-- The length of a vector; it is infinite if a component is, even beside an undefined one. -/
def hypot (x y : Float) : Float :=
  let a := x.abs
  let b := y.abs
  if a.isInf || b.isInf then 1.0 / 0.0
  else if a.isNaN || b.isNaN then Binary.toDouble .nan
  else if a < b then Hypot.ofOrdered b a
  else Hypot.ofOrdered a b

end ScatterPick.Number
