import ScatterPick.Deflate.Wrapped
import ScatterPick.Drawing.Scene
import ScatterPick.Image.Failure

/-!
# Rendering drawings

A drawing is scaled so that its longer side has a given number of pixels. A pixel shows the box in
front of all that contain its centre.
-/

namespace ScatterPick.Drawing

/-- A scale with a shift on both axes. -/
structure Placement where
  scale : Float32
  x : Float32
  y : Float32

namespace Scene

/-- Fits the frame into the middle of the size. -/
def fit (s : Scene) : Placement :=
  let scale := min (s.width / s.frame.width) (s.height / s.frame.height)
  ⟨scale, (s.width - s.frame.width * scale) / 2.0 - s.frame.x * scale,
    (s.height - s.frame.height * scale) / 2.0 - s.frame.y * scale⟩

/-- Pixels for each unit of the size. -/
def scale (s : Scene) (size : Nat) : Float32 := Float32.ofNat (max size 1) / max s.width s.height

/-- A side in pixels, at least one. -/
def pixels (side scale : Float32) : Nat := max (side * scale).round.toUInt32.toNat 1

/-- The widest picture: its rows have less than 2^31 bytes. -/
def maxWidth : Nat := 536870911

/-- The pixel at a centre, in the units of the boxes. -/
def pixelAt (s : Scene) (x y : Float32) : Pixel :=
  s.boxes.foldl (fun below b =>
    if b.x ≤ x && x < b.x + b.width && b.y ≤ y && y < b.y + b.height then b.color.pixel
    else below) .clear

/-- Paints the drawing with a number of pixels on its longer side. -/
def render (s : Scene) (size : Nat) : Except ImageFailure Picture :=
  let scale := s.scale size
  let width := pixels s.width scale
  let height := pixels s.height scale
  if maxWidth < width then .error (.tooLarge width height)
  else
    let p := s.fit
    let place (i : Nat) (shift : Float32) : Float32 :=
      ((Float32.ofNat i + 0.5) / scale - shift) / p.scale
    .ok ⟨width, height, Array.ofFn (n := width * height) fun i =>
      s.pixelAt (place (i % width) p.x) (place (i / width) p.y)⟩

end Scene

/-- The text of a drawing, which may be compressed. -/
def text? (bytes : Bytes) : Option String :=
  match bytes with
  | 0x1f :: 0x8b :: _ => (Deflate.unzip? bytes).bind fun data => Bytes.text? data.toList
  | _ => bytes.text?

end Drawing

/-- The picture of an encoded drawing with a number of pixels on its longer side. -/
def Picture.ofDrawing (bytes : Bytes) (size : Nat) : Except ImageFailure Picture :=
  match (Drawing.text? bytes).bind Drawing.Scene.read? with
  | some scene => scene.render size
  | none => .error .invalidDrawing

end ScatterPick
