import ScatterPick.Config.Mismatch

/-!
# Reading positions

A cursor is the rest of a JSON text with the place where it starts. A place counts lines from one
and, within a line, the bytes before it. A problem is reported either at the cursor or one byte
further, where the offending character has just been looked at.
-/

namespace ScatterPick.Json

/-- A place in a text. -/
structure Place where
  line : Nat
  column : Nat
  deriving DecidableEq, Repr

namespace Place

/-- The place after a character. -/
def after (p : Place) (c : Char) : Place :=
  if c = '\n' then ⟨p.line + 1, 0⟩ else ⟨p.line, p.column + c.utf8Size⟩

/-- The place one byte on, which may lie inside the character. -/
def next (p : Place) : List Char → Place
  | [] => p
  | c :: _ => if c = '\n' then ⟨p.line + 1, 0⟩ else ⟨p.line, p.column + 1⟩

/-- The place a number of bytes on, or nothing if the text ends before. -/
def skipBytes (p : Place) : Nat → List Char → Option Place
  | 0, _ => some p
  | _ + 1, [] => none
  | n + 1, c :: rest =>
    if n + 1 < c.utf8Size then some ⟨p.line, p.column + (n + 1)⟩
    else skipBytes (p.after c) (n + 1 - c.utf8Size) rest

/-- The place at the end of a text. -/
def atEnd (p : Place) (cs : List Char) : Place := cs.foldl after p

end Place

/-- What is wrong with a JSON text. -/
inductive Problem where
  | endInList
  | endInObject
  | endInText
  | endInValue
  | missingColon
  | missingCommaInList
  | missingCommaInObject
  | wrongWord
  | missingValue
  | wrongEscape
  | wrongNumber
  | numberTooLarge
  | controlCharacter
  | keyNotText
  | loneSurrogate
  | trailingComma
  | trailingText
  | unfinishedSurrogate
  | mismatch (cause : Mismatch)
  deriving DecidableEq, Repr

/-- The wording of a problem. -/
def Problem.message : Problem → String
  | endInList => "EOF while parsing a list"
  | endInObject => "EOF while parsing an object"
  | endInText => "EOF while parsing a string"
  | endInValue => "EOF while parsing a value"
  | missingColon => "expected `:`"
  | missingCommaInList => "expected `,` or `]`"
  | missingCommaInObject => "expected `,` or `\x7d`"
  | wrongWord => "expected ident"
  | missingValue => "expected value"
  | wrongEscape => "invalid escape"
  | wrongNumber => "invalid number"
  | numberTooLarge => "number out of range"
  | controlCharacter => "control character (\\u0000-\\u001F) found while parsing a string"
  | keyNotText => "key must be a string"
  | loneSurrogate => "lone leading surrogate in hex escape"
  | trailingComma => "trailing comma"
  | trailingText => "trailing characters"
  | unfinishedSurrogate => "unexpected end of hex escape"
  | mismatch cause => cause.message

/-- The rest of a text and the place where it starts. -/
structure Cursor where
  rest : List Char
  place : Place
  deriving DecidableEq, Repr

/-- A failed reading. -/
structure Failure where
  problem : Problem
  /-- The place to report, if it is already known. -/
  place : Option Place
  /-- Where the reading stopped. -/
  cursor : Cursor
  deriving DecidableEq, Repr

/-- A reader takes a value off the front of a text. -/
abbrev Reader (α : Type) := Cursor → Except Failure (α × Cursor)

namespace Cursor

/-- The start of a text. -/
def ofText (text : String) : Cursor := ⟨text.toList, ⟨1, 0⟩⟩

/-- The cursor after the first character. -/
def advance (c : Cursor) : Cursor :=
  match c.rest with
  | [] => c
  | a :: rest => ⟨rest, c.place.after a⟩

/-- The cursor after a run of characters. -/
def skip (c : Cursor) (n : Nat) : Cursor :=
  ⟨c.rest.drop n, c.place.atEnd (c.rest.take n)⟩

/-- Whether a character may stand between the tokens of a JSON text. -/
def isGap (c : Char) : Bool := c = ' ' || c = '\n' || c = '\t' || c = '\r'

/-- The cursor after the gap in front of it. -/
def skipGap (c : Cursor) : Cursor := c.skip (c.rest.takeWhile isGap).length

/-- The failure with a problem at the cursor. -/
def fail (c : Cursor) (p : Problem) : Failure := ⟨p, some c.place, c⟩

/-- The failure with a problem in the character at the cursor. -/
def failNext (c : Cursor) (p : Problem) : Failure := ⟨p, some (c.place.next c.rest), c⟩

/-- The failure at the end of the text, or else another one in the character at the cursor. -/
def failOrEnd (c : Cursor) (atEnd p : Problem) : Failure :=
  if c.rest.isEmpty then c.fail atEnd else c.failNext p

/-- The failure of a value that does not fit, reported at the cursor. -/
def mismatch (c : Cursor) (cause : Mismatch) : Failure := c.fail (.mismatch cause)

/-- The failure of a value that does not fit, to be reported where its surroundings end. -/
def mismatchLater (c : Cursor) (cause : Mismatch) : Failure := ⟨.mismatch cause, none, c⟩

end Cursor

end ScatterPick.Json
