import ScatterPick.Bytes

/-!
# Picture header

Size, depth and colour model of a picture, from the first chunk of a file.
-/

namespace ScatterPick.Png

/-- What the samples of a pixel mean. -/
inductive ColorModel where
  | gray
  | color
  /-- Places in a table of colours. -/
  | indexed
  | grayAlpha
  | colorAlpha
  deriving DecidableEq, Repr

namespace ColorModel

/-- The model with a number. -/
def ofNumber? : Nat → Option ColorModel
  | 0 => some gray
  | 2 => some color
  | 3 => some indexed
  | 4 => some grayAlpha
  | 6 => some colorAlpha
  | _ => none

/-- Samples for each pixel. -/
def channels : ColorModel → Nat
  | gray => 1
  | color => 3
  | indexed => 1
  | grayAlpha => 2
  | colorAlpha => 4

/-- The bits that a sample can have. -/
def depths : ColorModel → List Nat
  | gray => [1, 2, 4, 8, 16]
  | indexed => [1, 2, 4, 8]
  | _ => [8, 16]

end ColorModel

/-- The header of a picture. -/
structure Header where
  width : Nat
  height : Nat
  /-- Bits for each sample. -/
  depth : Nat
  model : ColorModel
  deriving DecidableEq, Repr

namespace Header

/-- Reads a header; the rows have to stand in order, all in one pass. -/
def read? (body : Bytes) : Option Header := do
  let (width, rest) ← body.take? 4
  let (height, rest) ← rest.take? 4
  match rest with
  | [depth, model, 0, 0, 0] =>
    let width := Bytes.bigEndian width
    let height := Bytes.bigEndian height
    let model ← ColorModel.ofNumber? model.toNat
    if width ≠ 0 && height ≠ 0 && depth.toNat ∈ model.depths then
      some ⟨width, height, depth.toNat, model⟩
    else none
  | _ => none

/-- Bits for each pixel. -/
def pixelBits (h : Header) : Nat := h.model.channels * h.depth

/-- Bytes for each row. -/
def rowSize (h : Header) : Nat := (h.width * h.pixelBits + 7) / 8

/-- How far back the same sample of the pixel before is, in bytes. -/
def step (h : Header) : Nat := (h.pixelBits + 7) / 8

/-- Bytes for all rows, each with its filter. -/
def dataSize (h : Header) : Nat := h.height * (h.rowSize + 1)

end Header

end ScatterPick.Png
