import ScatterPick.Drawing.Render
import ScatterPick.Hud.PictureCache
import ScatterPick.Image.Decode

/-!
# Icon pictures

The formats in which icons can be encoded.
-/

namespace ScatterPick

/-- The decoders of all known formats. -/
def Decoders.standard : Decoders where
  drawing := Picture.ofDrawing
  picture := Picture.decode

end ScatterPick
