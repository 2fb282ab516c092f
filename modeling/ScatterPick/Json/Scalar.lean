import ScatterPick.Json.Cursor
import ScatterPick.Number.Reading
import ScatterPick.Text.Hexadecimal

/-!
# JSON scalars

Readers of words, strings and numbers. A string may hold any character but controls; a number is
kept as an integer as long as 64 bits hold it.
-/

namespace ScatterPick.Json

open Number

/-- Reads the rest of a word. -/
def readWord (word : List Char) (c : Cursor) : Except Failure Cursor :=
  match word with
  | [] => .ok c
  | w :: word =>
    match c.rest with
    | [] => .error (c.fail .endInValue)
    | a :: _ => if a = w then readWord word c.advance else .error (c.failNext .wrongWord)

/-- Reads the four digits of a numeric escape. -/
def readHex : Reader Nat := fun c =>
  match c.place.skipBytes 4 c.rest with
  | none =>
    let last := c.skip c.rest.length
    .error (last.fail .endInText)
  | some place =>
    match Text.hexValue? (c.rest.take 4) with
    | some n => .ok (n, c.skip 4)
    | none => .error { c.fail .wrongEscape with place := some place }

/-- Reads the second half of a character outside the basic plane. -/
def readLowSurrogate (high : Nat) : Reader Char := fun c =>
  match c.rest with
  | [] => .error (c.fail .endInText)
  | '\\' :: 'u' :: _ => do
    let (low, c) ← readHex (c.skip 2)
    if low < 0xDC00 || 0xDFFF < low then .error (c.fail .loneSurrogate)
    else .ok (Char.ofNat (0x10000 + (high - 0xD800) * 0x400 + (low - 0xDC00)), c)
  | ['\\'] => .error (c.advance.fail .endInText)
  | '\\' :: _ => .error (c.advance.failNext .unfinishedSurrogate)
  | _ => .error (c.failNext .unfinishedSurrogate)

/-- Reads the rest of a numeric escape. -/
def readUnicode : Reader Char := fun c => do
  let (n, c) ← readHex c
  if 0xDC00 ≤ n && n ≤ 0xDFFF then .error (c.fail .loneSurrogate)
  else if 0xD800 ≤ n && n ≤ 0xDBFF then readLowSurrogate n c
  else .ok (Char.ofNat n, c)

/-- The character of an escape of one letter. -/
def letterEscape? : Char → Option Char
  | '"' => some '"'
  | '\\' => some '\\'
  | '/' => some '/'
  | 'b' => some '\x08'
  | 'f' => some '\x0c'
  | 'n' => some '\n'
  | 'r' => some '\r'
  | 't' => some '\t'
  | _ => none

/-- Reads what follows a backslash. -/
def readEscape : Reader Char := fun c =>
  match c.rest with
  | [] => .error (c.fail .endInText)
  | 'u' :: _ => readUnicode c.advance
  | a :: _ =>
    match letterEscape? a with
    | some a => .ok (a, c.advance)
    | none => .error (c.failNext .wrongEscape)

/-- Reads the characters of a string up to its closing quote; every character takes one fuel. -/
def readChars (read : List Char) : Nat → Reader (List Char)
  | 0, c => .error (c.fail .endInText)
  | fuel + 1, c =>
    match c.rest with
    | [] => .error (c.fail .endInText)
    | '"' :: _ => .ok (read.reverse, c.advance)
    | '\\' :: _ => do
      let (a, c) ← readEscape c.advance
      readChars (a :: read) fuel c
    | a :: _ =>
      if a.toNat < 0x20 then .error (c.failNext .controlCharacter)
      else readChars (a :: read) fuel c.advance

/-- Reads a string after its opening quote. -/
def readText : Reader String := fun c => do
  let (cs, c) ← readChars [] (c.rest.length + 1) c
  .ok (String.ofList cs, c)

/-- Skips what follows a backslash, which need not be a character. -/
def skipEscape (c : Cursor) : Except Failure Cursor :=
  match c.rest with
  | 'u' :: _ => (readHex c.advance).map (·.2)
  | _ => (readEscape c).map (·.2)

/-- Skips the characters of a string up to its closing quote. -/
def skipChars : Nat → Cursor → Except Failure Cursor
  | 0, c => .error (c.fail .endInText)
  | fuel + 1, c =>
    match c.rest with
    | [] => .error (c.fail .endInText)
    | '"' :: _ => .ok c.advance
    | '\\' :: _ => do
      let c ← skipEscape c.advance
      skipChars fuel c
    | a :: _ =>
      if a.toNat < 0x20 then .error (c.fail .controlCharacter) else skipChars fuel c.advance

/-- Skips a string after its opening quote. -/
def skipText (c : Cursor) : Except Failure Cursor := skipChars (c.rest.length + 1) c

/-- A number as it was written. -/
inductive Numeral where
  /-- An integer that 64 bits hold. -/
  | integer (value : Int)
  | fraction (value : Float)

/-- The greatest exponent that a numeral spells out. -/
def exponentBound : Nat := 2147483647

/-- Reads the digits of an exponent; too great a one is reported as soon as it is. -/
def readExponent (zero negative : Bool) (value : Nat) : List Char → Place →
    Except Failure (Option Int × Cursor)
  | [], p => .ok (some (if negative then -value else value), ⟨[], p⟩)
  | d :: rest, p =>
    if d.isDigit then
      let value := 10 * value + (d.toNat - '0'.toNat)
      if value ≤ exponentBound then readExponent zero negative value rest (p.after d)
      else if zero || negative then
        let c : Cursor := ⟨rest, p.after d⟩
        .ok (none, c.skip (rest.takeWhile Char.isDigit).length)
      else
        let c : Cursor := ⟨rest, p.after d⟩
        .error (c.fail .numberTooLarge)
    else .ok (some (if negative then -value else value), ⟨d :: rest, p⟩)

/-- The cursor after an optional sign, and whether it was a minus. -/
def skipSign (c : Cursor) : Bool × Cursor :=
  match c.rest with
  | '-' :: _ => (true, c.advance)
  | '+' :: _ => (false, c.advance)
  | _ => (false, c)

/-- Whether the text goes on with an exponent. -/
def atExponent (c : Cursor) : Bool :=
  match c.rest with
  | a :: _ => a = 'e' || a = 'E'
  | [] => false

/-- Reads an optional exponent; one too far below zero leaves nothing of the number. -/
def readExponentPart (zero : Bool) : Reader (Option Int) := fun c =>
  if atExponent c then
    let (negative, c) := skipSign c.advance
    match c.rest with
    | [] => .error (c.fail .endInValue)
    | a :: _ =>
      if a.isDigit then readExponent zero negative 0 c.rest c.place
      else .error (c.failNext .wrongNumber)
  else .ok (some 0, c)

/-- The numeral with the given parts. -/
def finishFraction (negative : Bool) (whole fraction : List Char) (c : Cursor)
    (exponent : Option Int) : Except Failure Numeral :=
  match exponent with
  | none => .ok (.fraction (if negative then -0.0 else 0.0))
  | some e =>
    let value := (Decimal.ofParts whole fraction e).toDouble negative
    if value.isFinite then .ok (.fraction value) else .error (c.fail .numberTooLarge)

/-- The numeral of digits without a fraction. -/
def wholeNumeral (negative : Bool) (digits : List Char) : Numeral :=
  let n := ofDigits digits
  if negative then
    if n = 0 || Nat.pow 2 63 < n then .fraction ((⟨n, 0⟩ : Decimal).toDouble true)
    else .integer (-(n : Int))
  else if n < Nat.pow 2 64 then .integer n
  else .fraction ((⟨n, 0⟩ : Decimal).toDouble false)

/-- Reads what follows the digits before the point. -/
def readFraction (negative : Bool) (whole : List Char) : Reader Numeral := fun c =>
  match c.rest with
  | '.' :: rest => do
    let fraction := rest.takeWhile Char.isDigit
    let c := c.advance.skip fraction.length
    if fraction.isEmpty then .error (c.failOrEnd .endInValue .wrongNumber)
    else
      let (e, c) ← readExponentPart (ofDigits (whole ++ fraction) == 0) c
      return (← finishFraction negative whole fraction c e, c)
  | _ =>
    if atExponent c then do
      let (e, c) ← readExponentPart (ofDigits whole == 0) c
      return (← finishFraction negative whole [] c e, c)
    else
      let numeral := wholeNumeral negative whole
      match numeral with
      | .fraction value =>
        if value.isFinite then .ok (numeral, c) else .error (c.fail .numberTooLarge)
      | .integer _ => .ok (numeral, c)

/-- Reads a number after its sign. -/
def readUnsigned (negative : Bool) : Reader Numeral := fun c =>
  match c.rest with
  | [] => .error (c.fail .endInValue)
  | '0' :: rest =>
    match rest with
    | d :: _ =>
      if d.isDigit then .error (c.advance.failNext .wrongNumber)
      else readFraction negative ['0'] c.advance
    | [] => readFraction negative ['0'] c.advance
  | d :: _ =>
    if d.isDigit then
      let whole := c.rest.takeWhile Char.isDigit
      readFraction negative whole (c.skip whole.length)
    else .error (c.failNext .wrongNumber)

/-- Skips the digits of an exponent, at least one. -/
def skipExponent (c : Cursor) : Except Failure Cursor :=
  let (_, c) := skipSign c.advance
  let digits := c.rest.takeWhile Char.isDigit
  if digits.isEmpty then .error (c.failNext .wrongNumber) else .ok (c.skip digits.length)

/-- Skips what follows the digits before the point. -/
def skipFraction (c : Cursor) : Except Failure Cursor :=
  match c.rest with
  | '.' :: rest =>
    let digits := rest.takeWhile Char.isDigit
    let c := c.advance.skip digits.length
    if digits.isEmpty then .error (c.failNext .wrongNumber)
    else if atExponent c then skipExponent c
    else .ok c
  | _ => if atExponent c then skipExponent c else .ok c

/-- Skips a number after its sign; how great it is does not matter. -/
def skipUnsigned (c : Cursor) : Except Failure Cursor :=
  match c.rest with
  | '0' :: rest =>
    match rest with
    | d :: _ =>
      if d.isDigit then .error (c.advance.failNext .wrongNumber) else skipFraction c.advance
    | [] => skipFraction c.advance
  | _ =>
    let digits := c.rest.takeWhile Char.isDigit
    if digits.isEmpty then .error (c.failNext .wrongNumber) else skipFraction (c.skip digits.length)

end ScatterPick.Json
