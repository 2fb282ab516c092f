import ScatterPick.Image.Picture

/-!
# Colours

Opaque colours of three channels, and their pixels.
-/

namespace ScatterPick

/-- An opaque colour. -/
structure Color where
  red : UInt8
  green : UInt8
  blue : UInt8
  deriving DecidableEq, Repr

namespace Color

/-- The colour of three bytes in one number. -/
def ofNat (n : Nat) : Color := ⟨(n / 65536).toUInt8, (n / 256).toUInt8, n.toUInt8⟩

/-- The colour without light. -/
def black : Color := ofNat 0

/-- The pixel of a colour with an opacity. -/
def pixel (c : Color) (alpha : UInt8 := 255) : Pixel := .ofStraight c.red c.green c.blue alpha

end Color

end ScatterPick
