import ScatterPick.Bytes

/-!
# Cyclic redundancy check

The 32-bit remainder that guards the pieces of compressed files.
-/

namespace ScatterPick.Checksum

/-- Divides one bit out of a remainder. -/
def shift (r : UInt32) : UInt32 :=
  if r &&& 1 = 1 then (r >>> 1) ^^^ 0xedb88320 else r >>> 1

/-- Takes one byte into a remainder. -/
def add (r : UInt32) (b : UInt8) : UInt32 :=
  (List.range 8).foldl (fun r _ => shift r) (r ^^^ b.toUInt32)

/-- The check value of some bytes. -/
def ofBytes (bytes : Bytes) : UInt32 := bytes.foldl add 0xffffffff ^^^ 0xffffffff

end ScatterPick.Checksum
