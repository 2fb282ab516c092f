import ScatterPick.Deflate.Bits

/-!
# Canonical prefix codes

A code is given by the lengths of its words. Words of one length are consecutive numbers in the
order of their symbols, and each length starts where the words of the lengths before it end.
-/

namespace ScatterPick.Deflate

/-- A prefix code: the symbols of each length, from one bit on, in order. -/
structure Code where
  levels : List (Array Nat)

namespace Code

/-- The longest word of a code. -/
def maxLength : Nat := 15

/-- The number of sequences of bits that are as long as the longest word. -/
def longest : Nat := Nat.pow 2 maxLength

/-- How many of the longest sequences start with the words of some lengths. -/
def share (lengths : List Nat) : Nat :=
  lengths.foldl (fun count n => if n = 0 then count else count + Nat.pow 2 (maxLength - n)) 0

/-- The symbols whose words have a length. -/
def symbolsOf (lengths : List Nat) (length : Nat) : Array Nat :=
  ((lengths.zipIdx.filter (·.1 == length)).map (·.2)).toArray

/-- The code with the given word lengths, where length zero is a symbol out of use: either every
long sequence of bits starts with a word, or there is at most one word. -/
def ofLengths? (lengths : List Nat) : Option Code :=
  let used := lengths.filter (· != 0)
  if share lengths = longest || (used.length ≤ 1 && share lengths ≤ longest) then
    some ⟨(List.range maxLength).map fun n => symbolsOf lengths (n + 1)⟩
  else none

/-- Reads a word bit by bit: `word` is what was read so far, and `first` the first word of the
length before, both as numbers. -/
def search : List (Array Nat) → Nat → Nat → Bits → Option (Nat × Bits)
  | [], _, _, _ => none
  | symbols :: levels, word, first, s => do
    let (bit, s) ← s.next?
    let word := 2 * word + bit.toNat
    let first := 2 * first
    match symbols[word - first]? with
    | some symbol => some (symbol, s)
    | none => search levels word (first + symbols.size) s

/-- The next symbol of a stream. -/
def next? (c : Code) (s : Bits) : Option (Nat × Bits) := search c.levels 0 0 s

/-- The lengths of the words of the fixed code for bytes and copies. -/
def fixedLiterals : List Nat :=
  List.replicate 144 8 ++ List.replicate 112 9 ++ List.replicate 24 7 ++ List.replicate 8 8

/-- The lengths of the words of the fixed code for distances. -/
def fixedDistances : List Nat := List.replicate 32 5

end Code

end ScatterPick.Deflate
