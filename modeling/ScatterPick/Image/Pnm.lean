import ScatterPick.Bytes
import ScatterPick.Image.Sample

/-!
# Portable maps

Bitmaps, graymaps and pixmaps: a mark, sizes and the greatest sample as words, then the samples,
either as words too or as bytes.
-/

namespace ScatterPick.Pnm

/-- What the samples mean. -/
inductive Kind where
  /-- One bit for each pixel, where one is black. -/
  | bitmap
  | graymap
  | pixmap
  deriving DecidableEq, Repr

/-- Kind of a file, and whether its samples are words. -/
structure Form where
  kind : Kind
  plain : Bool
  deriving DecidableEq, Repr

/-- The form with a mark. -/
def Form.ofMark? (mark : Bytes) : Option Form :=
  [("P1", .bitmap, true), ("P2", .graymap, true), ("P3", .pixmap, true), ("P4", .bitmap, false),
    ("P5", .graymap, false), ("P6", .pixmap, false)].findSome? fun (text, kind, plain) =>
    if mark = Bytes.ofText text then some ⟨kind, plain⟩ else none

/-- Whether a byte separates words. -/
def isBlank (b : UInt8) : Bool := b = 32 || (9 ≤ b && b ≤ 13)

/-- Whether a byte ends a line. -/
def isLineEnd (b : UInt8) : Bool := b = 10 || b = 13

/-- Reads a word and the byte after it. Comments reach from a hash sign to the end of the line,
even inside a word. -/
def word? (comment : Bool) (word : Bytes) : Bytes → Option (Bytes × Bytes)
  | [] => if word.isEmpty then none else some (word, [])
  | b :: rest =>
    if comment then word? (!isLineEnd b) word rest
    else if b = 0x23 then word? true word rest
    else if isBlank b then if word.isEmpty then word? false word rest else some (word, rest)
    else if 128 ≤ b then none
    else word? false (word ++ [b]) rest

/-- The number that a word stands for, up to a bound; a plus sign may stand in front. -/
def number? (bound : Nat) (word : Bytes) : Option Nat :=
  let digits := match word with
    | 0x2b :: digits => digits
    | digits => digits
  if digits.isEmpty || !digits.all (fun b => 0x30 ≤ b && b ≤ 0x39) then none
  else
    let n := digits.foldl (fun n b => 10 * n + (b.toNat - 0x30)) 0
    if n ≤ bound then some n else none

/-- Reads a number of the header. -/
def headerNumber? (bytes : Bytes) : Option (Nat × Bytes) := do
  let (word, rest) ← word? false [] bytes
  let n ← number? 4294967295 word
  some (n, rest)

/-- What stands in front of the samples. -/
structure Header where
  form : Form
  width : Nat
  height : Nat
  /-- The greatest sample. -/
  greatest : Nat
  deriving DecidableEq, Repr

namespace Header

/-- Reads a header. -/
def read? (bytes : Bytes) : Option (Header × Bytes) := do
  let (mark, rest) ← bytes.take? 2
  let form ← Form.ofMark? mark
  let (width, rest) ← headerNumber? rest
  let (height, rest) ← headerNumber? rest
  if form.kind = .bitmap then some (⟨form, width, height, 1⟩, rest)
  else
    let (greatest, rest) ← headerNumber? rest
    if greatest = 0 || 65535 < greatest then none
    else some (⟨form, width, height, greatest⟩, rest)

/-- Samples for each pixel. -/
def channels (h : Header) : Nat := if h.form.kind = .pixmap then 3 else 1

/-- Whether samples need two bytes. -/
def isWide (h : Header) : Bool := 255 < h.greatest

/-- The number of samples. -/
def count (h : Header) : Nat := h.width * h.height * h.channels

/-- A sample in eight bits. -/
def spread (h : Header) (sample : Nat) : UInt8 :=
  if h.isWide then Sample.narrow (Sample.stretch 65535 h.greatest sample)
  else (Sample.stretch 255 h.greatest sample).toUInt8

end Header

/-- Reads samples as words. -/
def words? (bound : Nat) : Nat → Bytes → Option (List Nat)
  | 0, _ => some []
  | count + 1, bytes => do
    let bytes := bytes.dropWhile isBlank
    let n ← number? bound (bytes.takeWhile (!isBlank ·))
    let ns ← words? bound count ((bytes.dropWhile (!isBlank ·)).drop 1)
    some (n :: ns)

/-- Reads bits as digits, which need no blank between them. -/
def digits? : Nat → Bytes → Option (List Nat)
  | 0, _ => some []
  | count + 1, bytes =>
    match bytes.dropWhile isBlank with
    | 0x30 :: rest => (digits? count rest).map (1 :: ·)
    | 0x31 :: rest => (digits? count rest).map (0 :: ·)
    | _ => none

/-- Reads samples as groups of bytes. -/
def packed? (size count : Nat) (bytes : Bytes) : Option (List Nat) :=
  (bytes.take? (size * count)).map fun (data, _) =>
    (Sample.groups size count data).map Bytes.bigEndian

/-- Reads bits as bytes; each row starts a new byte. -/
def packedBits? (width height : Nat) (bytes : Bytes) : Option (List Nat) :=
  let size := (width + 7) / 8
  (bytes.take? (size * height)).map fun (data, _) =>
    (Sample.groups size height data).flatMap fun row =>
      ((row.flatMap Sample.bits).take width).map fun bit => (!bit).toNat

namespace Header

/-- Reads the samples; those of a bitmap are one for white. -/
def samples? (h : Header) (bytes : Bytes) : Option (List Nat) :=
  match h.form with
  | ⟨.bitmap, true⟩ => digits? h.count bytes
  | ⟨.bitmap, false⟩ => packedBits? h.width h.height bytes
  | ⟨_, true⟩ => words? (if h.isWide then 65535 else 255) h.count bytes
  | ⟨_, false⟩ => packed? (if h.isWide then 2 else 1) h.count bytes

/-- The pixel of its samples. -/
def pixel (h : Header) (samples : List Nat) : Pixel :=
  match samples.map h.spread with
  | [r, g, b] => .ofStraight r g b 255
  | [v] => .ofStraight v v v 255
  | _ => .clear

end Header

/-- Reads a file. -/
def read? (bytes : Bytes) : Option Picture := do
  let (h, rest) ← Header.read? bytes
  let samples ← if h.count = 0 then some [] else h.samples? rest
  Sample.grid? h.width h.height
    ((Sample.groups h.channels (h.width * h.height) samples).map h.pixel)

end ScatterPick.Pnm
