import ScatterPick.Yaml.Character

/-!
# Positions in YAML texts

A cursor is the rest of a text with the position of its first character. Positions count
characters, lines and columns from zero.
-/

namespace ScatterPick.Yaml

/-- A position. -/
structure Mark where
  index : Nat
  line : Nat
  column : Nat
  deriving DecidableEq, Repr

namespace Mark

/-- The start of a text. -/
def start : Mark := ⟨0, 0, 0⟩

/-- The position one character on in the same line. -/
def next (m : Mark) : Mark := ⟨m.index + 1, m.line, m.column + 1⟩

/-- The start of the next line, after a break of some characters. -/
def nextLine (m : Mark) (width : Nat) : Mark := ⟨m.index + width, m.line + 1, 0⟩

end Mark

/-- The rest of a text and its position. -/
structure Cursor where
  rest : List Char
  mark : Mark
  deriving DecidableEq, Repr

namespace Cursor

/-- The first character. -/
def peek (c : Cursor) : Option Char := c.rest.head?

/-- Whether the first character is the given one. -/
def sees (c : Cursor) (a : Char) : Bool := c.peek = some a

/-- Whether the text ends, or a gap starts, after some characters. -/
def gapAt (c : Cursor) (n : Nat) : Bool :=
  match c.rest[n]? with
  | none => true
  | some a => isGap a

/-- Whether the first character satisfies a test. -/
def starts (c : Cursor) (test : Char → Bool) : Bool := c.peek.any test

/-- The cursor after the first character, which is no break. -/
def advance (c : Cursor) : Cursor := ⟨c.rest.tail, c.mark.next⟩

/-- The cursor after some characters, none of them a break. -/
def skip (c : Cursor) : Nat → Cursor
  | 0 => c
  | n + 1 => c.advance.skip n

/-- The characters in front that satisfy a test, which no break does, and the rest. -/
def span (c : Cursor) (test : Char → Bool) : List Char × Cursor :=
  let front := c.rest.takeWhile test
  (front, c.skip front.length)

/-- The cursor after the characters that satisfy a test, which no break does. -/
def skipWhile (c : Cursor) (test : Char → Bool) : Cursor := (c.span test).2

/-- Takes a line break, as it counts in a text, if there is one. -/
def takeBreak (c : Cursor) : List Char × Cursor :=
  match c.rest with
  | '\r' :: '\n' :: rest => (['\n'], ⟨rest, c.mark.nextLine 2⟩)
  | a :: rest =>
    if a = '\n' || a = '\r' || a = '\u0085' then (['\n'], ⟨rest, c.mark.nextLine 1⟩)
    else if isBreak a then ([a], ⟨rest, c.mark.nextLine 1⟩)
    else ([], c)
  | [] => ([], c)

/-- The cursor after a line break, if there is one. -/
def skipBreak (c : Cursor) : Cursor := c.takeBreak.2

/-- The cursor after a comment, if there is one. -/
def skipComment (c : Cursor) : Cursor := if c.sees '#' then c.skipWhile (!isBreak ·) else c

/-- Whether three of a character stand alone at the start of a line. -/
def atRule (c : Cursor) (a : Char) : Bool :=
  c.mark.column == 0 && c.rest.take 3 == [a, a, a] && c.gapAt 3

/-- Whether a document starts or ends here. -/
def atDocumentRule (c : Cursor) : Bool := c.atRule '-' || c.atRule '.'

/-- The cursor after the rest of a line that holds nothing but a comment. -/
def finishLine? (c : Cursor) : Option Cursor :=
  let c := (c.skipWhile isBlank).skipComment
  match c.peek with
  | none => some c
  | some a => if isBreak a then some c.skipBreak else none

end Cursor

end ScatterPick.Yaml
