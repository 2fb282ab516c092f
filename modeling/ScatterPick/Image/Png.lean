import ScatterPick.Deflate.Wrapped
import ScatterPick.Image.Png.Chunk
import ScatterPick.Image.Png.Color
import ScatterPick.Image.Png.Row

/-!
# Pictures in chunks

The header comes first, tables come next, and the rows are the compressed bodies of the chunks of
data, which follow one another. Some chunk has to follow them, whose rest is not looked at.
-/

namespace ScatterPick.Png

/-- What is known before the data. -/
structure Preamble where
  header : Header
  palette : Palette := {}

namespace Preamble

/-- Takes a chunk in front of the data; optional chunks that are damaged are skipped. -/
def add (p : Preamble) (c : Chunk) : Option Preamble :=
  if !c.intact then if c.isOptional then some p else none
  else if c.isKind "IHDR" || c.isKind "IEND" then none
  else if c.isKind "PLTE" then
    if p.palette.colors.isSome then none
    else some { p with palette := { p.palette with colors := some c.body.toArray } }
  else if c.isKind "tRNS" then
    if p.palette.opacity.isSome || !p.palette.admits p.header c.body then none
    else some { p with palette := { p.palette with opacity := some c.body } }
  else some p

/-- Whether nothing is missing: an indexed picture has a table. -/
def isComplete (p : Preamble) : Bool := p.header.model ≠ .indexed || p.palette.colors.isSome

end Preamble

/-- What stands in front of the data of a file. -/
def preamble? : List Chunk → Option Preamble
  | [] => none
  | first :: chunks => do
    if first.intact && first.isKind "IHDR" then
      let header ← Header.read? first.body
      let p ← chunks.foldlM Preamble.add (⟨header, {}⟩ : Preamble)
      if p.isComplete then some p else none
    else none

/-- The compressed data of a file: the bodies of the chunks of data, of which none is damaged. -/
def compressed? (chunks : List Chunk) : Option Bytes :=
  if !chunks.isEmpty && chunks.all (·.intact) then some (chunks.flatMap (·.body)) else none

/-- Whether another chunk begins after the data. -/
def continues (behind : List Chunk) (rest : Bytes) : Bool :=
  !behind.isEmpty || (8 ≤ rest.length && (rest.drop 4).take 4 ≠ Bytes.ofText "IDAT")

/-- Reads a file. -/
def read? (bytes : Bytes) : Option Picture := do
  let (chunks, rest) ← chunks? bytes
  let isData (c : Chunk) := c.isKind "IDAT"
  let (front, chunks) := chunks.span (!isData ·)
  let (data, behind) := chunks.span isData
  let ⟨header, palette⟩ ← preamble? front
  let raw ← (compressed? data).bind Deflate.unwrap?
  if continues behind rest && header.dataSize ≤ raw.size then
    let rows ← readRows? header header.height #[] raw.toList
    Sample.grid? header.width header.height (rows.flatMap (rowPixels header palette))
  else none

end ScatterPick.Png
