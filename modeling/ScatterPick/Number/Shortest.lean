import ScatterPick.Number.Binary

/-!
# Shortest decimals

`shortest` finds the fewest decimal digits that read back as a given binary number, and of those
decimals the nearest. A decimal grid meets the interval of values that round to the number only if
one of the two grid points around the number does, so two candidates per digit count suffice.
-/

namespace ScatterPick.Number

/-- The decimal `digits * 10 ^ exponent`. -/
structure Decimal where
  digits : Nat
  exponent : Int
  deriving DecidableEq, Repr

/-- What happens to a number half way between two decimals of the chosen length. -/
inductive Tie where
  | up
  | even
  deriving DecidableEq, Repr

/-- The number of decimal digits; zero has one. -/
def digitCount (n : Nat) : Nat := if n < 10 then 1 else digitCount (n / 10) + 1

/-- The greatest `e` with `10 ^ e ≤ num / den`, for positive arguments. -/
def floorLog10 (num den : Nat) : Int :=
  let e : Int := (digitCount num : Int) - (digitCount den : Int)
  if den * tenPow e ≤ num * tenPow (-e) then e else e - 1

namespace Decimal

/-- Moves trailing zeros of the digits into the exponent. -/
def strip (d : Decimal) : Decimal :=
  if h : d.digits ≠ 0 ∧ d.digits % 10 = 0 then strip ⟨d.digits / 10, d.exponent + 1⟩ else d
termination_by d.digits
decreasing_by omega

end Decimal

/-- The values that read back as `significand * 2 ^ exponent`, in quarters of its unit. -/
structure Interval where
  low : Nat
  middle : Nat
  high : Nat
  /-- Whether the two ends read back too. -/
  closed : Bool

/-- The interval around a finite number; below a power of two the neighbour is nearer. -/
def Format.interval (f : Format) (significand : Nat) (exponent : Int) : Interval :=
  let atPower := significand == f.leading && f.minExponent < exponent
  { low := 4 * significand - if atPower then 1 else 2
    middle := 4 * significand
    high := 4 * significand + 2
    closed := significand % 2 == 0 }

/-- The candidate of `n` digits, if one of them reads back. -/
def Interval.candidate? (i : Interval) (exponent : Int) (tie : Tie) (grid : Int) : Option Decimal :=
  let unit := 4 * tenPow grid * twoPow (-exponent)
  let scale := twoPow exponent * tenPow (-grid)
  let inside (c : Nat) : Bool :=
    if i.closed then i.low * scale ≤ c * unit && c * unit ≤ i.high * scale
    else i.low * scale < c * unit && c * unit < i.high * scale
  let below := i.middle * scale / unit
  let above := below + 1
  let downward := i.middle * scale - below * unit
  let upward := above * unit - i.middle * scale
  let preferAbove := upward < downward || (upward == downward && (tie == .up || below % 2 == 1))
  match inside below, inside above with
  | true, true => some ⟨if preferAbove then above else below, grid⟩
  | true, false => some ⟨below, grid⟩
  | false, true => some ⟨above, grid⟩
  | false, false => none

/-- Tries one digit more until a decimal reads back; the fuel counts the digits left. -/
def Interval.search (i : Interval) (exponent : Int) (tie : Tie) (lead : Int) (used : Nat) :
    Nat → Decimal
  | 0 => ⟨i.middle / 4 * twoPow exponent, 0⟩
  | fuel + 1 =>
    match i.candidate? exponent tie (lead - used) with
    | some d => d
    | none => search i exponent tie lead (used + 1) fuel

/-- The shortest decimal that reads back as a positive number of the format. -/
def Format.shortest (f : Format) (tie : Tie) (significand : Nat) (exponent : Int) : Decimal :=
  let lead := floorLog10 (significand * twoPow exponent) (twoPow (-exponent))
  ((f.interval significand exponent).search exponent tie lead 0 20).strip

end ScatterPick.Number
