import ScatterPick.Image.Png.Header

/-!
# Filtered rows

A row is written as differences to a guess from bytes before it. The guess of a byte comes from its
neighbours to the left, above, and above to the left, which are zero outside the picture.
-/

namespace ScatterPick.Png

/-- How bytes are guessed. -/
inductive Filter where
  | zero
  | left
  | above
  | average
  /-- The neighbour closest to left plus above minus corner. -/
  | nearest
  deriving DecidableEq, Repr

namespace Filter

/-- The filter with a number. -/
def ofByte? : UInt8 → Option Filter
  | 0 => some zero
  | 1 => some left
  | 2 => some above
  | 3 => some average
  | 4 => some nearest
  | _ => none

/-- The neighbour nearest to the plane through all three; ties go left, then above. -/
def nearestOf (l a c : UInt8) : UInt8 :=
  let plane : Int := l.toNat + a.toNat - c.toNat
  let far (b : UInt8) : Nat := (plane - b.toNat).natAbs
  if far l ≤ far a && far l ≤ far c then l else if far a ≤ far c then a else c

/-- The guess from the neighbours to the left, above and in the corner. -/
def guess (f : Filter) (l a c : UInt8) : UInt8 :=
  match f with
  | zero => 0
  | left => l
  | above => a
  | average => ((l.toNat + a.toNat) / 2).toUInt8
  | nearest => nearestOf l a c

/-- A row from its differences and the row above; `step` is the distance to the left neighbour. -/
def restore (f : Filter) (step : Nat) (previous : Array UInt8) (differences : Bytes) :
    Array UInt8 :=
  differences.foldl (fun row d =>
    let i := row.size
    let before (bytes : Array UInt8) : UInt8 := if step ≤ i then bytes.getD (i - step) 0 else 0
    row.push (d + f.guess (before row) (previous.getD i 0) (before previous))) #[]

end Filter

/-- Reads rows, each after the byte of its filter. -/
def readRows? (h : Header) : Nat → Array UInt8 → Bytes → Option (List (Array UInt8))
  | 0, _, _ => some []
  | count + 1, previous, bytes => do
    let (front, rest) ← bytes.take? 1
    let (differences, rest) ← rest.take? h.rowSize
    let filter ← front.head?.bind Filter.ofByte?
    let row := filter.restore h.step previous differences
    let rows ← readRows? h count row rest
    some (row :: rows)

end ScatterPick.Png
