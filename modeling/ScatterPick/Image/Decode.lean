import ScatterPick.Image.Bmp
import ScatterPick.Image.Failure
import ScatterPick.Image.Png
import ScatterPick.Image.Pnm

/-!
# Decoding pictures

A picture is in one of several formats, each known by its first bytes.
-/

namespace ScatterPick

/-- The picture in a file. -/
def Picture.decode (bytes : Bytes) : Except ImageFailure Picture :=
  match ((Png.read? bytes).or (Pnm.read? bytes)).or (Bmp.read? bytes) with
  | some picture => .ok picture
  | none => .error .undecodable

end ScatterPick
