import ScatterPick.Number.Shortest

/-!
# Written numbers

A `Style` fixes how the shortest digits of a number are laid out: where positional writing ends,
whether a whole number keeps its point, how an exponent and the special values are spelled. Each
text that the program writes has one such record.
-/

namespace ScatterPick.Number

/-- The layout of a number. -/
structure Style where
  /-- A number in `[10 ^ (k - 1), 10 ^ k)` is positional if `k` lies in this range. -/
  positional : Option (Int × Int)
  /-- Whether a whole number ends in `.0`. -/
  keepPoint : Bool
  /-- Whether a positive exponent has its sign. -/
  exponentSign : Bool
  tie : Tie
  nan : String
  infinity : String
  negativeInfinity : String

namespace Style

/-- Log lines: positional at every magnitude, whole numbers without a point. -/
def log : Style := ⟨none, false, false, .up, "NaN", "inf", "-inf"⟩

/-- Error messages about a YAML value: as in log lines, but whole numbers keep their point. -/
def message : Style := { log with keepPoint := true }

/-- Doubles in YAML files. -/
def yamlDouble : Style := ⟨some (-4, 16), true, false, .even, ".nan", ".inf", "-.inf"⟩

/-- Singles in YAML files. -/
def yamlSingle : Style := { yamlDouble with positional := some (-5, 13) }

/-- Doubles in JSON files, which have no word for a number that is not finite. -/
def jsonDouble : Style := ⟨some (-4, 16), true, true, .even, "null", "null", "null"⟩

/-- Singles in JSON files. -/
def jsonSingle : Style := { jsonDouble with positional := some (-5, 13) }

end Style

/-- A run of zeros. -/
def zeros (n : Nat) : List Char := List.replicate n '0'

/-- The decimal digits of a natural number. -/
def digits (n : Nat) : List Char := Nat.toDigits 10 n

/-- The digits with the point after `point` of them, padded by zeros on either side. -/
def layPositional (keepPoint : Bool) (ds : List Char) (point : Int) : List Char :=
  if point ≤ 0 then '0' :: '.' :: (zeros (-point).toNat ++ ds)
  else if ds.length ≤ point.toNat then
    ds ++ zeros (point.toNat - ds.length) ++ if keepPoint then ['.', '0'] else []
  else ds.take point.toNat ++ '.' :: ds.drop point.toNat

/-- The digits with the point after the first of them and a decimal exponent. -/
def layScientific (exponentSign : Bool) (ds : List Char) (exponent : Int) : List Char :=
  let mantissa := match ds with
    | d :: e :: rest => d :: '.' :: e :: rest
    | ds => ds
  let sign := if exponent < 0 then ['-'] else if exponentSign then ['+'] else []
  mantissa ++ 'e' :: (sign ++ digits exponent.natAbs)

/-- The layout of a positive decimal. -/
def Style.layout (s : Style) (d : Decimal) : List Char :=
  let ds := digits d.digits
  let point := (ds.length : Int) + d.exponent
  let positional := match s.positional with
    | none => true
    | some (least, greatest) => least ≤ point && point ≤ greatest
  if positional then layPositional s.keepPoint ds point
  else layScientific s.exponentSign ds (point - 1)

/-- The text of a number of a format. -/
def Style.render (s : Style) (f : Format) : Binary → String
  | .nan => s.nan
  | .infinity negative => if negative then s.negativeInfinity else s.infinity
  | .finite negative m e =>
    let body :=
      if m = 0 then if s.keepPoint then ['0', '.', '0'] else ['0']
      else s.layout (f.shortest s.tie m e)
    String.ofList (if negative then '-' :: body else body)

/-- The text of a double. -/
def Style.double (s : Style) (x : Float) : String := s.render Number.double (.ofDouble x)

/-- The text of a single. -/
def Style.single (s : Style) (x : Float32) : String := s.render Number.single (.ofSingle x)

/-- A non-negative number to twelve significant digits, a tie to the even digit. -/
def twelveDigits (x : Float) : String :=
  match Binary.ofDouble x with
  | .nan => "NaN"
  | .infinity _ => "inf"
  | .finite _ m e =>
    if m = 0 then "0.00000000000e0"
    else
      let num := m * twoPow e
      let den := twoPow (-e)
      let lead := floorLog10 num den
      let grid := lead - 11
      let n := roundHalfEven (num * tenPow (-grid)) (den * tenPow grid)
      let (n, lead) := if n = Nat.pow 10 12 then (Nat.pow 10 11, lead + 1) else (n, lead)
      String.ofList (layScientific false (digits n) lead)

end ScatterPick.Number
