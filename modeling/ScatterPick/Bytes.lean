/-!
# Bytes of a file

Files are lists of bytes; what they encode is read from the front.
-/

namespace ScatterPick

/-- The bytes of a file, in order. -/
abbrev Bytes := List UInt8

namespace Bytes

/-- The number whose highest byte comes first. -/
def bigEndian (bytes : Bytes) : Nat := bytes.foldl (fun n b => 256 * n + b.toNat) 0

/-- The number whose lowest byte comes first. -/
def littleEndian (bytes : Bytes) : Nat := bytes.foldr (fun b n => b.toNat + 256 * n) 0

/-- The first `n` bytes and the rest, if there are as many. -/
def take? (n : Nat) (bytes : Bytes) : Option (Bytes × Bytes) :=
  let parts := bytes.splitAt n
  if parts.1.length = n then some parts else none

/-- The bytes of a text. -/
def ofText (text : String) : Bytes := text.toUTF8.data.toList

/-- The text that bytes encode. -/
def text? (bytes : Bytes) : Option String := String.fromUTF8? ⟨bytes.toArray⟩

end Bytes

end ScatterPick
