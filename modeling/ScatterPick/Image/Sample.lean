import ScatterPick.Image.Picture

/-!
# Samples

A picture file gives each channel of a pixel as a number up to a greatest one.
-/

namespace ScatterPick.Sample

/-- A 16-bit sample in 8 bits, to the nearest. -/
def narrow (sample : Nat) : UInt8 := ((sample + 128) / 257).toUInt8

/-- A sample out of a greatest one, spread over the range up to `top`, to the nearest. -/
def stretch (top greatest sample : Nat) : Nat :=
  if greatest = top then sample
  else
    let factor := Float32.ofNat top / Float32.ofNat greatest
    min top (Float32.ofNat sample * factor).round.toUInt64.toNat

/-- The first `count` groups of a size in a list. -/
def groups {α : Type} (size : Nat) : Nat → List α → List (List α)
  | 0, _ => []
  | count + 1, xs => xs.take size :: groups size count (xs.drop size)

/-- The bits of a byte, the highest first. -/
def bits (b : UInt8) : List Bool := (List.range 8).map fun i => b.toNat.testBit (7 - i)

/-- The grid of the pixels in a list, if there are as many as the grid has places. -/
def grid? (width height : Nat) (pixels : List Pixel) : Option Picture :=
  if pixels.length = width * height then some ⟨width, height, pixels.toArray⟩ else none

end ScatterPick.Sample
