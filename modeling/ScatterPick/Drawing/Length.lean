import ScatterPick.Number.Reading
import ScatterPick.Xml.Character

/-!
# Lengths

A length is a number with a unit. Units of paper are taken at 96 dots per inch, and units of type
at a size of 12.
-/

namespace ScatterPick.Drawing

/-- What a length is counted in. -/
inductive LengthUnit where
  | dot
  | em
  | ex
  | inch
  | centimeter
  | millimeter
  | point
  | pica
  | percent
  deriving DecidableEq, Repr

namespace LengthUnit

/-- The unit with a name. -/
def ofName? : List Char → Option LengthUnit
  | [] => some dot
  | ['p', 'x'] => some dot
  | ['e', 'm'] => some em
  | ['e', 'x'] => some ex
  | ['i', 'n'] => some inch
  | ['c', 'm'] => some centimeter
  | ['m', 'm'] => some millimeter
  | ['p', 't'] => some point
  | ['p', 'c'] => some pica
  | ['%'] => some percent
  | _ => none

end LengthUnit

/-- A number with a unit. -/
structure Length where
  number : Float
  unit : LengthUnit

/-- The exponent of a number at the front of a text, unless its letter begins a unit. -/
def spanExponent : List Char → List Char × List Char
  | e :: rest =>
    if (e = 'e' || e = 'E') && !(['m', 'x'].any (rest.head? == some ·)) then
      let (sign, digits) := match rest with
        | '+' :: ds => (['+'], ds)
        | '-' :: ds => (['-'], ds)
        | ds => ([], ds)
      (e :: sign ++ digits.takeWhile Char.isDigit, digits.dropWhile Char.isDigit)
    else ([], e :: rest)
  | [] => ([], [])

/-- Splits a number off the front of a text, after blank space. -/
def spanNumber (cs : List Char) : List Char × List Char :=
  let cs := cs.dropWhile Xml.isBlank
  let (sign, cs) := match cs with
    | '+' :: cs => (['+'], cs)
    | '-' :: cs => (['-'], cs)
    | cs => ([], cs)
  let (whole, cs) := Number.spanDigits cs
  let (fraction, cs) := match cs with
    | '.' :: cs => let (ds, cs) := Number.spanDigits cs; ('.' :: ds, cs)
    | cs => ([], cs)
  let (exponent, cs) := spanExponent cs
  (sign ++ whole ++ fraction ++ exponent, cs)

/-- Reads a number that is not infinite, and the rest of a text. -/
def number? (cs : List Char) : Option (Float × List Char) := do
  let (front, rest) := spanNumber cs
  let (negative, d) ← Number.readDecimal? front
  let x := d.toDouble negative
  if x.isFinite then some (x, rest) else none

namespace Length

/-- The length that a text stands for. -/
def read? (text : String) : Option Length := do
  let (number, rest) ← number? text.toList
  let unit ← LengthUnit.ofName? rest
  some ⟨number, unit⟩

/-- The whole of a side. -/
def whole : Length := ⟨100.0, .percent⟩

/-- No length at all. -/
def zero : Length := ⟨0.0, .dot⟩

/-- The size of type. -/
def typeSize : Float32 := 12.0

/-- Dots per inch. -/
def resolution : Float32 := 96.0

/-- A length in dots, where percentages are of a side. -/
def resolve (l : Length) (side : Float32) : Float32 :=
  let n := l.number.toFloat32
  match l.unit with
  | .dot => n
  | .em => n * typeSize
  | .ex => n * typeSize / 2.0
  | .inch => n * resolution
  | .centimeter => n * resolution / 2.54
  | .millimeter => n * resolution / 25.4
  | .point => n * resolution / 72.0
  | .pica => n * resolution / 6.0
  | .percent => side * n / 100.0

end Length

end ScatterPick.Drawing
