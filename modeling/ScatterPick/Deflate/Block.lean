import ScatterPick.Deflate.Code

/-!
# Compressed blocks

A stream is a row of blocks: bytes as they are, or bytes and copies of earlier bytes in a prefix
code. Loops are bounded by the number of bits, since each turn reads at least one.
-/

namespace ScatterPick.Deflate

/-- Where a range of numbers starts, and how many bits tell the place in it. -/
structure Band where
  base : Nat
  bits : Nat

namespace Band

/-- The bands with these widths in bits, one after another. -/
def row (start : Nat) (widths : List Nat) : Array Band :=
  let add : Array Band × Nat → Nat → Array Band × Nat :=
    fun (row, base) bits => (row.push ⟨base, bits⟩, base + Nat.pow 2 bits)
  (widths.foldl add (#[], start)).1

/-- The lengths of copies. -/
def lengths : Array Band :=
  (row 3 [0, 0, 0, 0, 0, 0, 0, 0, 1, 1, 1, 1, 2, 2, 2, 2, 3, 3, 3, 3, 4, 4, 4, 4, 5, 5, 5, 5]).push
    ⟨258, 0⟩

/-- The distances of copies. -/
def distances : Array Band :=
  row 1 [0, 0, 0, 0, 1, 1, 2, 2, 3, 3, 4, 4, 5, 5, 6, 6, 7, 7, 8, 8, 9, 9, 10, 10, 11, 11, 12, 12,
    13, 13]

/-- Reads a number of a band. -/
def read? (bands : Array Band) (index : Nat) (s : Bits) : Option (Nat × Bits) := do
  let band ← bands[index]?
  let (n, s) ← s.read? band.bits
  some (band.base + n, s)

end Band

/-- Appends a copy of bytes some distance back; the copy may reach into itself. -/
def copyBack (distance : Nat) : Nat → Array UInt8 → Option (Array UInt8)
  | 0, out => some out
  | length + 1, out =>
    if distance ≤ out.size then
      out[out.size - distance]?.bind fun b => copyBack distance length (out.push b)
    else none

/-- Reads bytes and copies up to the end of a block. -/
def readCoded (literals distances : Code) :
    Nat → Bits → Array UInt8 → Option (Bits × Array UInt8)
  | 0, _, _ => none
  | fuel + 1, s, out => do
    let (symbol, s) ← literals.next? s
    if symbol < 256 then readCoded literals distances fuel s (out.push symbol.toUInt8)
    else if symbol = 256 then some (s, out)
    else
      let (length, s) ← Band.read? Band.lengths (symbol - 257) s
      let (symbol, s) ← distances.next? s
      let (distance, s) ← Band.read? Band.distances symbol s
      let out ← copyBack distance length out
      readCoded literals distances fuel s out

/-- Reads a block of bytes as they are: their number, its complement, and the bytes. -/
def readStored (s : Bits) (out : Array UInt8) : Option (Bits × Array UInt8) := do
  let (size, rest) ← s.aligned.take? 2
  let (complement, rest) ← rest.take? 2
  let n := Bytes.littleEndian size
  if n + Bytes.littleEndian complement = 65535 then
    let (bytes, rest) ← rest.take? n
    some (.ofBytes rest, out ++ bytes.toArray)
  else none

/-- The order in which the lengths of the code for lengths are written. -/
def lengthOrder : List Nat := [16, 17, 18, 0, 8, 7, 9, 6, 10, 5, 11, 4, 12, 3, 13, 2, 14, 1, 15]

/-- Reads word lengths: as they are, repeats of the last one, and runs of zeros. -/
def readLengths (code : Code) (count : Nat) : Nat → Bits → Array Nat → Option (List Nat × Bits)
  | 0, _, _ => none
  | fuel + 1, s, done =>
    if count ≤ done.size then
      if done.size = count then some (done.toList, s) else none
    else do
      let (symbol, s) ← code.next? s
      if symbol < 16 then readLengths code count fuel s (done.push symbol)
      else
        let (value, base, bits) ←
          if symbol = 16 then done.back?.map (·, 3, 2)
          else if symbol = 17 then some (0, 3, 3)
          else some (0, 11, 7)
        let (n, s) ← s.read? bits
        readLengths code count fuel s (done ++ Array.replicate (base + n) value)

/-- Reads the two codes at the front of a block. -/
def readCodes (s : Bits) : Option (Code × Code × Bits) := do
  let (literals, s) ← s.read? 5
  let (distances, s) ← s.read? 5
  let (count, s) ← s.read? 4
  let (short, s) ← s.readAll? 3 (count + 4)
  let places := lengthOrder.zip short
  let code ← Code.ofLengths? ((List.range 19).map fun n => (places.lookup n).getD 0)
  let (lengths, s) ← readLengths code (literals + 257 + (distances + 1)) (s.size + 1) s #[]
  let literalCode ← Code.ofLengths? (lengths.take (literals + 257))
  let distanceCode ← Code.ofLengths? (lengths.drop (literals + 257))
  some (literalCode, distanceCode, s)

/-- Reads a block after its mark for the last one. -/
def readBlock (s : Bits) (out : Array UInt8) : Option (Bits × Array UInt8) := do
  let (kind, s) ← s.read? 2
  match kind with
  | 0 => readStored s out
  | 1 =>
    let literals ← Code.ofLengths? Code.fixedLiterals
    let distances ← Code.ofLengths? Code.fixedDistances
    readCoded literals distances (s.size + 1) s out
  | 2 =>
    let (literals, distances, s) ← readCodes s
    readCoded literals distances (s.size + 1) s out
  | _ => none

/-- Reads blocks up to the last one. -/
def readBlocks : Nat → Bits → Array UInt8 → Option (Bits × Array UInt8)
  | 0, _, _ => none
  | fuel + 1, s, out => do
    let (last, s) ← s.next?
    let (s, out) ← readBlock s out
    if last then some (s, out) else readBlocks fuel s out

/-- The data of a compressed stream, and the bytes after it. -/
def inflate? (bytes : Bytes) : Option (Array UInt8 × Bytes) :=
  let s := Bits.ofBytes bytes
  (readBlocks (s.size + 1) s #[]).map fun (s, out) => (out, s.aligned)

end ScatterPick.Deflate
