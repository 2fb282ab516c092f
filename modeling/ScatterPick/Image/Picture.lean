/-!
# Pictures

A picture is a grid of pixels, row by row from the top. The channels of a pixel are premultiplied
by its opacity.
-/

namespace ScatterPick

/-- A pixel, its colour premultiplied by its opacity. -/
structure Pixel where
  red : UInt8
  green : UInt8
  blue : UInt8
  alpha : UInt8
  deriving DecidableEq, Repr

namespace Pixel

/-- The pixel that shows nothing. -/
def clear : Pixel := ⟨0, 0, 0, 0⟩

/-- A channel scaled by an opacity out of 255, to the nearest whole number. -/
def scaleChannel (channel alpha : UInt8) : UInt8 :=
  (channel.toFloat32 * (alpha.toFloat32 / 255.0) + 0.5).toUInt8

/-- The pixel of a colour with an opacity. -/
def ofStraight (red green blue alpha : UInt8) : Pixel :=
  if alpha = 0 then clear
  else if alpha = 255 then ⟨red, green, blue, 255⟩
  else ⟨scaleChannel red alpha, scaleChannel green alpha, scaleChannel blue alpha, alpha⟩

end Pixel

/-- A decoded picture. -/
structure Picture where
  width : Nat
  height : Nat
  /-- The pixels, row by row from the top. -/
  pixels : Array Pixel
  deriving DecidableEq

end ScatterPick
