import ScatterPick.Bytes

/-!
# Streams of bits

Compressed data is a stream of bits, the lowest bit of each byte first.
-/

namespace ScatterPick.Deflate

/-- What is left of a stream. -/
structure Bits where
  bytes : Bytes
  /-- How many bits of the first byte have been read. -/
  used : Nat := 0

namespace Bits

/-- The stream of some bytes. -/
def ofBytes (bytes : Bytes) : Bits := ⟨bytes, 0⟩

/-- A bound on the number of bits left. -/
def size (s : Bits) : Nat := 8 * s.bytes.length

/-- The next bit. -/
def next? (s : Bits) : Option (Bool × Bits) :=
  match s.bytes with
  | [] => none
  | b :: rest =>
    some (b.toNat.testBit s.used, if s.used = 7 then ⟨rest, 0⟩ else ⟨b :: rest, s.used + 1⟩)

/-- The number in the next `n` bits, the lowest first. -/
def read? : Nat → Bits → Option (Nat × Bits)
  | 0, s => some (0, s)
  | n + 1, s => do
    let (bit, s) ← s.next?
    let (high, s) ← read? n s
    some (bit.toNat + 2 * high, s)

/-- The numbers in the next `count` groups of `width` bits. -/
def readAll? (width : Nat) : Nat → Bits → Option (List Nat × Bits)
  | 0, s => some ([], s)
  | count + 1, s => do
    let (n, s) ← read? width s
    let (ns, s) ← readAll? width count s
    some (n :: ns, s)

/-- The bytes from the next full byte on. -/
def aligned (s : Bits) : Bytes := if s.used = 0 then s.bytes else s.bytes.tail

end Bits

end ScatterPick.Deflate
