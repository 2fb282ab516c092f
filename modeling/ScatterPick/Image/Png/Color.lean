import ScatterPick.Image.Png.Header
import ScatterPick.Image.Sample

/-!
# Pixels from samples

Samples are spread over eight bits. A table gives colours to numbers, and a picture without opacity
can name one colour that stands for nothing at all.
-/

namespace ScatterPick.Png

/-- The samples in a row. -/
def samples (depth : Nat) (row : Bytes) : List Nat :=
  if depth = 8 then row.map (·.toNat)
  else if depth = 16 then pairs row
  else row.flatMap fun b =>
    (List.range (8 / depth)).map fun i =>
      b.toNat / Nat.pow 2 (8 - depth * (i + 1)) % Nat.pow 2 depth
where
  /-- Samples of two bytes. -/
  pairs : Bytes → List Nat
    | high :: low :: rest => (256 * high.toNat + low.toNat) :: pairs rest
    | _ => []

/-- A sample in eight bits. -/
def spread (depth sample : Nat) : UInt8 :=
  if depth = 16 then Sample.narrow sample else (sample * (255 / (Nat.pow 2 depth - 1))).toUInt8

/-- What beside the samples decides the colours. -/
structure Palette where
  /-- The colours of an indexed picture, three bytes each. -/
  colors : Option (Array UInt8) := none
  /-- The opacities of an indexed picture, or the samples of the colour that is clear. -/
  opacity : Option Bytes := none

namespace Palette

/-- The opacities can be read for a model: not where pixels have their own. -/
def admits (p : Palette) (h : Header) (opacity : Bytes) : Bool :=
  match h.model with
  | .gray => 2 ≤ opacity.length
  | .color => 6 ≤ opacity.length
  | .indexed => p.colors.isSome
  | _ => false

/-- Whether samples are those of the clear colour. -/
def isClear (p : Palette) (depth : Nat) (pixel : List Nat) : Bool :=
  match p.opacity with
  | none => false
  | some key =>
    let key := (samples 16 key).take pixel.length
    pixel == if depth = 16 then key else key.map (· % 256)

/-- The pixel of a place in the table; places beyond it are black, and opacities that are not given
are full. -/
def entry (p : Palette) (place : Nat) : Pixel :=
  let colors := p.colors.getD #[]
  let opacity := ((p.opacity.getD [])[place]?).getD 255
  match colors[3 * place]?, colors[3 * place + 1]?, colors[3 * place + 2]? with
  | some r, some g, some b => .ofStraight r g b opacity
  | _, _, _ => .ofStraight 0 0 0 255

/-- The pixel of its samples. -/
def pixel (p : Palette) (h : Header) (pixel : List Nat) : Pixel :=
  let opacity : UInt8 := if p.isClear h.depth pixel then 0 else 255
  match h.model, pixel.map (spread h.depth) with
  | .gray, [v] => .ofStraight v v v opacity
  | .color, [r, g, b] => .ofStraight r g b opacity
  | .grayAlpha, [v, a] => .ofStraight v v v a
  | .colorAlpha, [r, g, b, a] => .ofStraight r g b a
  | .indexed, _ => p.entry (pixel.headD 0)
  | _, _ => .clear

end Palette

/-- The pixels of a row. -/
def rowPixels (h : Header) (p : Palette) (row : Array UInt8) : List Pixel :=
  (Sample.groups h.model.channels h.width (samples h.depth row.toList)).map (p.pixel h)

end ScatterPick.Png
