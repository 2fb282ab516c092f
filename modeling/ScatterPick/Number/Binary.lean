/-!
# Binary floating-point numbers

A double or single is decoded into sign, significand and exponent, so that rounding, reading and
printing are exact arithmetic on natural numbers. `Format.round` is the only place where a value
is rounded: to nearest, a tie to the even significand.
-/

namespace ScatterPick.Number

/-- A binary interchange format. -/
structure Format where
  /-- Digits of a significand, the leading one included. -/
  precision : Nat
  /-- Width of the exponent field. -/
  exponentBits : Nat
  /-- Exponent of the unit of the smallest numbers. -/
  minExponent : Int
  deriving DecidableEq, Repr

/-- The format of `Float`. -/
def double : Format := ⟨53, 11, -1074⟩

/-- The format of `Float32`. -/
def single : Format := ⟨24, 8, -149⟩

/-- A decoded number; a finite one is `significand * 2 ^ exponent`. -/
inductive Binary where
  | nan
  | infinity (negative : Bool)
  | finite (negative : Bool) (significand : Nat) (exponent : Int)
  deriving DecidableEq, Repr

/-- The quotient to the nearest natural number, a half to the even one. -/
def roundHalfEven (num den : Nat) : Nat :=
  let q := num / den
  let r := num % den
  if den < 2 * r || (2 * r == den && q % 2 == 1) then q + 1 else q

/-- The natural number `2 ^ e`, or one where `e` is negative. -/
def twoPow (e : Int) : Nat := Nat.pow 2 e.toNat

/-- The natural number `10 ^ e`, or one where `e` is negative. -/
def tenPow (e : Int) : Nat := Nat.pow 10 e.toNat

/-- The greatest `e` with `2 ^ e ≤ num / den`, for positive arguments. -/
def floorLog2 (num den : Nat) : Int :=
  let e : Int := (num.log2 : Int) - (den.log2 : Int)
  if den * twoPow e ≤ num * twoPow (-e) then e else e - 1

namespace Format

/-- The value of the leading digit of a significand. -/
def leading (f : Format) : Nat := Nat.pow 2 (f.precision - 1)

/-- The number of values of the exponent field; the last one is for what is not finite. -/
def fields (f : Format) : Nat := Nat.pow 2 f.exponentBits

/-- The exponent of the unit of the greatest numbers. -/
def maxExponent (f : Format) : Int := f.minExponent + f.fields - 3

/-- The number of the format nearest to `num / den`, a tie to the even significand. -/
def round (f : Format) (negative : Bool) (num den : Nat) : Binary :=
  if num = 0 then .finite negative 0 f.minExponent
  else
    let e := max f.minExponent (floorLog2 num den - (f.precision : Int) + 1)
    let m := roundHalfEven (num * twoPow (-e)) (den * twoPow e)
    let (m, e) := if m = 2 * f.leading then (f.leading, e + 1) else (m, e)
    if f.maxExponent < e then .infinity negative else .finite negative m e

/-- Reads the bits of a number. -/
def decode (f : Format) (bits : Nat) : Binary :=
  let fraction := bits % f.leading
  let field := bits / f.leading % f.fields
  let negative := bits / (f.leading * f.fields) % 2 == 1
  if field = f.fields - 1 then
    if fraction = 0 then .infinity negative else .nan
  else if field = 0 then .finite negative fraction f.minExponent
  else .finite negative (fraction + f.leading) (f.minExponent + field - 1)

/-- Writes the bits of a number that the format holds; not a number is positive and quiet. -/
def encode (f : Format) : Binary → Nat
  | .nan => (f.fields - 1) * f.leading + f.leading / 2
  | .infinity negative => signBit negative + (f.fields - 1) * f.leading
  | .finite negative m e =>
    if m < f.leading then signBit negative + m
    else signBit negative + (e - f.minExponent).toNat * f.leading + m
where
  /-- The sign as the top bit. -/
  signBit (negative : Bool) : Nat :=
    if negative then f.leading * f.fields else 0

end Format

namespace Binary

/-- Rounds to another format. -/
def convert (f : Format) : Binary → Binary
  | .nan => .nan
  | .infinity negative => .infinity negative
  | .finite negative m e => f.round negative (m * twoPow e) (twoPow (-e))

/-- Decodes a double. -/
def ofDouble (x : Float) : Binary := double.decode x.toBits.toNat

/-- Decodes a single. -/
def ofSingle (x : Float32) : Binary := single.decode x.toBits.toNat

/-- The double of a value that a double holds. -/
def toDouble (b : Binary) : Float := .ofBits (UInt64.ofNat (double.encode b))

/-- The single of a value that a single holds. -/
def toSingle (b : Binary) : Float32 := .ofBits (UInt32.ofNat (single.encode b))

/-- Whether the number is neither infinite nor undefined. -/
def isFinite : Binary → Bool
  | .finite .. => true
  | _ => false

end Binary

/-- The single nearest to a double. -/
def narrow (x : Float) : Float32 := ((Binary.ofDouble x).convert single).toSingle

/-- The double equal to a single. -/
def widen (x : Float32) : Float := ((Binary.ofSingle x).convert double).toDouble

/-- The single nearest to a natural number. -/
def singleOfNat (n : Nat) : Float32 := (single.round false n 1).toSingle

end ScatterPick.Number
