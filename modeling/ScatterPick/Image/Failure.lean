/-!
# Image failures

Why an icon has no picture.
-/

namespace ScatterPick

/-- Why an icon could not be turned into pixels. -/
inductive ImageFailure where
  /-- The bytes are no picture in a known format. -/
  | undecodable
  /-- The bytes are no vector drawing. -/
  | invalidDrawing
  /-- The picture is too large to be drawn. -/
  | tooLarge (width height : Nat)
  deriving DecidableEq, Repr

/-- The wording of a failure. -/
def ImageFailure.message : ImageFailure → String
  | undecodable => "Cannot decode image"
  | invalidDrawing => "Invalid SVG"
  | tooLarge width height => s!"Cannot allocate {width}x{height} pixmap"

end ScatterPick
