import ScatterPick.Bytes.Checksum

/-!
# Chunks

A file of this format is a signature and a row of chunks. A chunk has a size, a kind of four
letters, a body and a check value over kind and body.
-/

namespace ScatterPick.Png

/-- The bytes in front of all chunks. -/
def signature : Bytes := [0x89, 0x50, 0x4e, 0x47, 0x0d, 0x0a, 0x1a, 0x0a]

/-- A chunk. -/
structure Chunk where
  kind : Bytes
  body : Bytes
  /-- Whether the check value agrees. -/
  intact : Bool

namespace Chunk

/-- Reads the chunk at the front. -/
def read? (bytes : Bytes) : Option (Chunk × Bytes) := do
  let (size, rest) ← bytes.take? 4
  let (kind, rest) ← rest.take? 4
  let (body, rest) ← rest.take? (Bytes.bigEndian size)
  let (check, rest) ← rest.take? 4
  let intact := Bytes.bigEndian check = (Checksum.ofBytes (kind ++ body)).toNat
  some (⟨kind, body, intact⟩, rest)

/-- Whether a reader may skip chunks of a kind: its first letter is small. -/
def isOptional (c : Chunk) : Bool := c.kind.head?.any (·.toNat.testBit 5)

/-- Whether the chunk is of a kind. -/
def isKind (c : Chunk) (kind : String) : Bool := c.kind == Bytes.ofText kind

end Chunk

/-- Reads chunks as long as they are whole, and returns what follows them. -/
def readChunks : Nat → Bytes → List Chunk × Bytes
  | 0, bytes => ([], bytes)
  | fuel + 1, bytes =>
    match Chunk.read? bytes with
    | none => ([], bytes)
    | some (c, rest) =>
      let (cs, rest) := readChunks fuel rest
      (c :: cs, rest)

/-- The chunks of a file and the bytes after the last whole one. -/
def chunks? (bytes : Bytes) : Option (List Chunk × Bytes) := do
  let (front, rest) ← bytes.take? 8
  if front = signature then some (readChunks rest.length rest) else none

end ScatterPick.Png
