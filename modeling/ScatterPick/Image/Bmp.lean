import ScatterPick.Bytes
import ScatterPick.Image.Sample

/-!
# Device independent bitmaps

Pictures of three bytes for each pixel, the last channel first. Rows are filled up to a multiple of
four bytes and stand from the bottom up, unless the height is negative.
-/

namespace ScatterPick.Bmp

/-- Size and place of the pixels. -/
structure Header where
  width : Nat
  height : Nat
  /-- Whether the top row comes first. -/
  fromTop : Bool
  /-- Where the pixels start in the file. -/
  offset : Nat
  deriving DecidableEq, Repr

/-- The number with a sign in four bytes. -/
def signed (bytes : Bytes) : Int := (Bytes.littleEndian bytes : Int).bmod (Nat.pow 2 32)

/-- The greatest width and height. -/
def maxSide : Int := 65535

/-- The sizes that the second part of a header can have. -/
def headerSizes : List Nat := [40, 52, 56, 108, 124]

/-- Reads the planes, which are one, and the bits for each pixel, which are 24. -/
def isTrueColor (bytes : Bytes) : Bool := bytes.take 4 == [1, 0, 24, 0]

/-- Reads the short form of the second part of a header. -/
def readShort? (offset : Nat) (bytes : Bytes) : Option Header := do
  let (width, rest) ← bytes.take? 2
  let (height, rest) ← rest.take? 2
  if isTrueColor rest then
    some ⟨Bytes.littleEndian width, Bytes.littleEndian height, false, offset⟩
  else none

/-- Reads the long form of the second part of a header; the pixels are not compressed. -/
def readLong? (offset : Nat) (bytes : Bytes) : Option Header := do
  let (width, rest) ← bytes.take? 4
  let (height, rest) ← rest.take? 4
  let (layout, rest) ← rest.take? 8
  let _ ← rest.take? 20
  let width := signed width
  let height := signed height
  if 0 ≤ width && width ≤ maxSide && height ≤ maxSide && isTrueColor layout &&
      layout.drop 4 == [0, 0, 0, 0] then
    some ⟨width.toNat, height.natAbs, decide (height < 0), offset⟩
  else none

/-- Reads a header. -/
def Header.read? (bytes : Bytes) : Option Header := do
  let (front, rest) ← bytes.take? 14
  let (size, rest) ← rest.take? 4
  let offset := Bytes.littleEndian (front.drop 10)
  let size := Bytes.littleEndian size
  if front.take 2 = Bytes.ofText "BM" then
    if size = 12 then readShort? offset rest
    else if size ∈ headerSizes then readLong? offset rest
    else none
  else none

namespace Header

/-- Bytes for each row. -/
def rowSize (h : Header) : Nat := (3 * h.width + 3) / 4 * 4

/-- The pixels of a row. -/
def rowPixels (h : Header) (row : Bytes) : List Pixel :=
  (Sample.groups 3 h.width row).map fun
    | [b, g, r] => .ofStraight r g b 255
    | _ => .clear

end Header

/-- Reads a file. -/
def read? (bytes : Bytes) : Option Picture := do
  let h ← Header.read? bytes
  if h.width = 0 then none
  else
    let (data, _) ← Bytes.take? (h.rowSize * h.height) (bytes.drop h.offset)
    let rows := (Sample.groups h.rowSize h.height data).map h.rowPixels
    Sample.grid? h.width h.height (if h.fromTop then rows else rows.reverse).flatten

end ScatterPick.Bmp
