import ScatterPick.Deflate.Block
import ScatterPick.Bytes.Checksum

/-!
# Wrapped streams

The two envelopes around a compressed stream: a short one inside pictures, and one that makes a
file of its own.
-/

namespace ScatterPick.Deflate

/-- The data in a short envelope: two bytes in front that name the method and are a multiple of 31,
and a checksum behind. The checksum has to be there and is not compared. -/
def unwrap? (bytes : Bytes) : Option (Array UInt8) := do
  let (front, rest) ← bytes.take? 2
  let head := Bytes.bigEndian front
  let method := head / 256
  if method % 16 = 8 && method / 16 ≤ 7 && head % 31 = 0 && !(head.testBit 5) then
    let (data, rest) ← inflate? rest
    let _ ← rest.take? 4
    some data
  else none

/-- Drops a text with an end mark of zero. -/
def dropText (bytes : Bytes) : Option Bytes :=
  match bytes.dropWhile (· != 0) with
  | [] => none
  | _ :: rest => some rest

/-- Drops the optional parts in front of a file, which its flags announce. -/
def dropOptions (flags : Nat) (bytes : Bytes) : Option Bytes := do
  let bytes ←
    if flags.testBit 2 then do
      let (size, rest) ← bytes.take? 2
      (rest.take? (Bytes.littleEndian size)).map (·.2)
    else some bytes
  let bytes ← if flags.testBit 3 then dropText bytes else some bytes
  let bytes ← if flags.testBit 4 then dropText bytes else some bytes
  if flags.testBit 1 then (bytes.take? 2).map (·.2) else some bytes

/-- The data of a compressed file, if check value and size agree. -/
def unzip? (bytes : Bytes) : Option (Array UInt8) := do
  let (front, rest) ← bytes.take? 10
  match front with
  | 0x1f :: 0x8b :: 8 :: flags :: _ =>
    let rest ← dropOptions flags.toNat rest
    let (data, rest) ← inflate? rest
    let (check, rest) ← rest.take? 4
    let (size, _) ← rest.take? 4
    if Bytes.littleEndian check = (Checksum.ofBytes data.toList).toNat &&
        Bytes.littleEndian size = data.size % Nat.pow 2 32 then
      some data
    else none
  | _ => none

end ScatterPick.Deflate
