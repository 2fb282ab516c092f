import ScatterPick.Color
import ScatterPick.Drawing.ColorName
import ScatterPick.Drawing.Length
import ScatterPick.Text.Blank

/-!
# Written colours

A colour of a drawing is written as a name, in hexadecimal digits, or as three numbers.
-/

namespace ScatterPick

open Drawing

namespace Color

/-- The colour of hexadecimal digits, one or two for each channel. -/
def ofDigits? (digits : List Char) : Option Color :=
  match digits with
  | [r, g, b] => (Text.hexValue? [r, r, g, g, b, b]).map ofNat
  | [_, _, _, _, _, _] => (Text.hexValue? digits).map ofNat
  | _ => none

/-- The nearest byte to a number. -/
def byte (x : Float) : UInt8 := x.round.toUInt8

/-- A channel, as a number up to 255 or as a share of it. -/
def channel? (cs : List Char) : Option (UInt8 × List Char) := do
  let (x, rest) ← number? cs
  match rest with
  | '%' :: rest => some (byte (x * 255.0 / 100.0), rest.dropWhile Xml.isBlank)
  | rest => some (byte x, rest.dropWhile Xml.isBlank)

/-- Drops a comma, which may be left out. -/
def dropComma : List Char → List Char
  | ',' :: cs => cs
  | cs => cs

/-- The colour of three channels, up to the closing bracket. -/
def ofChannels? (cs : List Char) : Option Color := do
  let (red, cs) ← channel? cs
  let (green, cs) ← channel? (dropComma cs)
  let (blue, cs) ← channel? (dropComma cs)
  if cs = [')'] then some ⟨red, green, blue⟩ else none

/-- The colour that a text stands for. -/
def read? (text : String) : Option Color :=
  match text.toList with
  | '#' :: digits => ofDigits? digits
  | 'r' :: 'g' :: 'b' :: '(' :: rest => ofChannels? rest
  | _ => (namedColor? text).map ofNat

end Color

namespace Drawing

/-- What a shape is painted with. -/
inductive Paint where
  | none
  | solid (color : Color)
  deriving DecidableEq, Repr

namespace Paint

/-- The paint that a text stands for, where `outer` is that of the shape around it. -/
def read (text : String) (outer : Paint) : Paint :=
  let text := Text.trim text
  if text = "none" || text = "transparent" then none
  else if text = "inherit" then outer
  else
    match Color.read? text with
    | some color => solid color
    | Option.none => outer

end Paint

end Drawing

end ScatterPick
