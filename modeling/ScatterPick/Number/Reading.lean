import ScatterPick.Number.Shortest

/-!
# Reading decimals

The number of a format nearest to a decimal, rounded once. The two cut-offs only avoid powers of
ten that are out of reach of either format.
-/

namespace ScatterPick.Number

namespace Decimal

/-- The number nearest to a decimal with a sign. -/
def toBinary (f : Format) (negative : Bool) (d : Decimal) : Binary :=
  if d.digits = 0 then .finite negative 0 f.minExponent
  else
    let lead := (digitCount d.digits : Int) + d.exponent
    if 400 < lead then .infinity negative
    else if lead < -400 then .finite negative 0 f.minExponent
    else f.round negative (d.digits * tenPow d.exponent) (tenPow (-d.exponent))

/-- The double nearest to a decimal with a sign. -/
def toDouble (negative : Bool) (d : Decimal) : Float := (d.toBinary double negative).toDouble

end Decimal

/-- The value of a run of digits. -/
def ofDigits (ds : List Char) : Nat := ds.foldl (fun n d => 10 * n + (d.toNat - '0'.toNat)) 0

/-- The digits at the front of a text, and the rest. -/
def spanDigits (cs : List Char) : List Char × List Char :=
  (cs.takeWhile Char.isDigit, cs.dropWhile Char.isDigit)

/-- The decimal of an integer part, a fraction and an exponent. -/
def Decimal.ofParts (whole fraction : List Char) (exponent : Int) : Decimal :=
  ⟨ofDigits (whole ++ fraction), exponent - fraction.length⟩

/-- Reads an optional exponent, which has at least one digit, up to the end of the text. -/
def readExponent? : List Char → Option Int
  | [] => some 0
  | c :: rest =>
    if c = 'e' || c = 'E' then
      let (negative, ds) := match rest with
        | '-' :: ds => (true, ds)
        | '+' :: ds => (false, ds)
        | ds => (false, ds)
      if ds.isEmpty || !ds.all Char.isDigit then none
      else
        let n : Int := ofDigits ds
        some (if negative then -n else n)
    else none

/-- Reads a decimal number: digits with an optional point, at least one digit, and an exponent. -/
def readDecimal? (cs : List Char) : Option (Bool × Decimal) :=
  let (negative, cs) := match cs with
    | '-' :: cs => (true, cs)
    | '+' :: cs => (false, cs)
    | cs => (false, cs)
  let (whole, rest) := spanDigits cs
  let (fraction, rest) := match rest with
    | '.' :: rest => spanDigits rest
    | rest => ([], rest)
  if whole.isEmpty && fraction.isEmpty then none
  else (readExponent? rest).map fun e => (negative, .ofParts whole fraction e)

end ScatterPick.Number
