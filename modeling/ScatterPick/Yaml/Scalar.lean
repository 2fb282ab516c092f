import ScatterPick.Config.Mismatch
import ScatterPick.Number.Reading
import ScatterPick.Text.Hexadecimal

/-!
# The meaning of plain scalars

A plain scalar without a tag is null, a truth value, a number or a text. Integers may have a base;
a number with a leading zero is a text.
-/

namespace ScatterPick.Yaml

open Number

/-- What a scalar means. -/
inductive Meaning where
  | null
  | boolean (value : Bool)
  | integer (value : Int)
  /-- An integer that 64 bits do not hold, but 128 bits do. -/
  | wideInteger (value : Int)
  | fraction (value : Float)
  | text (value : String)
  deriving DecidableEq

/-- Whether a text spells null. -/
def isNull (s : String) : Bool := ["null", "Null", "NULL", "~"].contains s

/-- The truth value that a text spells. -/
def boolean? (s : String) : Option Bool :=
  if ["true", "True", "TRUE"].contains s then some true
  else if ["false", "False", "FALSE"].contains s then some false
  else none

/-- The text after a given start. -/
def after? : List Char → List Char → Option (List Char)
  | [], cs => some cs
  | a :: start, c :: cs => if a = c then after? start cs else none
  | _ :: _, [] => none

/-- Whether a text starts with a sign. -/
def startsSigned (cs : List Char) : Bool := cs.head? = some '+' || cs.head? = some '-'

/-- The value of a digit in a base up to sixteen. -/
def digitIn? (base : Nat) (c : Char) : Option Nat :=
  (Text.hexDigit? c).filter (· < base)

/-- The value of digits in a base, at least one, if it is below a limit. -/
def digitsIn? (base limit : Nat) (cs : List Char) : Option Nat :=
  if cs.isEmpty then none
  else
    (cs.foldl (fun n c => n.bind fun n => (digitIn? base c).map (base * n + ·)) (some 0)).filter
      (· < limit)

/-- Whether a text is a row of digits with a leading zero. -/
def isPadded (cs : List Char) : Bool :=
  let cs := if startsSigned cs then cs.tail else cs
  1 < cs.length && cs.head? = some '0' && cs.tail.all Char.isDigit

/-- The bases with a mark of their own. -/
def bases : List (List Char × Nat) := [(['0', 'x'], 16), (['0', 'o'], 8), (['0', 'b'], 2)]

/-- The value of digits after the mark of a base. -/
def markedDigits? (limit : Nat) (cs : List Char) : Option Nat :=
  bases.findSome? fun b => (after? b.1 cs).bind (digitsIn? b.2 limit)

/-- The integer below a limit that a text without a minus spells. -/
def unsigned? (limit : Nat) (cs : List Char) : Option Nat :=
  let body := if cs.head? = some '+' then cs.tail else cs
  match markedDigits? limit body with
  | some n => some n
  | none => if startsSigned body || isPadded cs then none else digitsIn? 10 limit body

/-- The distance from zero, at most a limit, of the integer that a text with a minus spells. -/
def negated? (limit : Nat) (cs : List Char) : Option Nat :=
  (after? ['-'] cs).bind fun body =>
    match markedDigits? (limit + 1) body with
    | some n => some n
    | none => if isPadded cs then none else digitsIn? 10 (limit + 1) body

/-- The integer that a text spells. -/
def integer? (s : String) : Option Meaning :=
  let cs := s.toList
  ((unsigned? (Nat.pow 2 64) cs).map fun n => .integer n) <|>
    ((negated? (Nat.pow 2 63) cs).map fun n => .integer (-(n : Int))) <|>
    ((unsigned? (Nat.pow 2 128) cs).map fun n => .wideInteger n) <|>
    ((negated? (Nat.pow 2 127) cs).map fun n => .wideInteger (-(n : Int)))

/-- The number, finite or not, that a text spells. -/
def float? (s : String) : Option Float :=
  let cs := s.toList
  let body := if cs.head? = some '+' then cs.tail else cs
  if cs.head? = some '+' && startsSigned body then none
  else if [".inf", ".Inf", ".INF"].contains (String.ofList body) then some (1.0 / 0.0)
  else if ["-.inf", "-.Inf", "-.INF"].contains s then some (-1.0 / 0.0)
  else if [".nan", ".NaN", ".NAN"].contains s then some (Binary.toDouble .nan)
  else
    ((readDecimal? body).map fun (negative, d) => d.toDouble negative).filter Float.isFinite

/-- The meaning of a plain scalar without a tag. -/
def plainMeaning (s : String) : Meaning :=
  if s.isEmpty || isNull s then .null
  else
    match boolean? s with
    | some b => .boolean b
    | none =>
      match integer? s with
      | some m => m
      | none =>
        match if isPadded s.toList then none else float? s with
        | some x => .fraction x
        | none => .text s

/-- What a meaning is called in a message. -/
def Meaning.found : Meaning → Found
  | null => .null "unit value"
  | boolean b => .boolean b
  | integer n => .integer n
  | wideInteger n => .wideInteger n
  | fraction x => .fraction (Style.message.double x)
  | text s => .text s

end ScatterPick.Yaml
