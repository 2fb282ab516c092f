/-!
# Style entries

An opacity or a marker size as it stands in a style: a single by its bit pattern. Undefined numbers
have many patterns, and points are grouped by the pattern, so the number alone would not tell which
points are drawn together.
-/

namespace ScatterPick

/-- A single by its bit pattern. -/
structure StyleEntry where
  bits : UInt32
  deriving DecidableEq, Repr

namespace StyleEntry

/-- A number as an entry; an undefined one gets the positive quiet pattern. -/
def ofSingle (x : Float32) : StyleEntry := ⟨x.toBits⟩

/-- The number that an entry stands for. -/
def value (e : StyleEntry) : Float32 := .ofBits e.bits

instance : Coe Float32 StyleEntry := ⟨ofSingle⟩

instance : Coe StyleEntry Float32 := ⟨value⟩

/-- Entries are handed over one by one. -/
instance : Coe (List Float32) (List StyleEntry) := ⟨List.map ofSingle⟩

/-- Entries are read off one by one. -/
instance : Coe (List StyleEntry) (List Float32) := ⟨List.map value⟩

instance : OfScientific StyleEntry where
  ofScientific m s e := ofSingle (OfScientific.ofScientific m s e)

end StyleEntry

end ScatterPick
