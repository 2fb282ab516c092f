import ScatterPick.Text.Hexadecimal
import ScatterPick.Yaml.Token

/-!
# Scanning tags, anchors and directives
-/

namespace ScatterPick.Yaml

/-- The number of bytes that a leading byte of an encoded character announces. -/
def encodedWidth? (byte : Nat) : Option Nat :=
  if byte < 0x80 then some 1
  else if 0xC0 ≤ byte && byte < 0xE0 then some 2
  else if 0xE0 ≤ byte && byte < 0xF0 then some 3
  else if 0xF0 ≤ byte && byte < 0xF8 then some 4
  else none

/-- Scans a byte that is escaped by its hexadecimal number. -/
def scanByte (c : Cursor) : Option (Nat × Cursor) :=
  match c.rest with
  | '%' :: a :: b :: _ => (Text.hexValue? [a, b]).map fun n => (n, c.skip 3)
  | _ => none

/-- Scans the further bytes of an escaped character. -/
def scanTrailing (value : Nat) : Nat → Cursor → Option (Nat × Cursor)
  | 0, c => some (value, c)
  | n + 1, c => do
    let (byte, c) ← scanByte c
    if byte / 0x40 = 2 then scanTrailing (value * 0x40 + byte % 0x40) n c else none

/-- Scans an escaped character. -/
def scanEncoded (c : Cursor) : Option (Char × Cursor) := do
  let (byte, c) ← scanByte c
  let width ← encodedWidth? byte
  let lead := if width = 1 then byte else byte % Nat.pow 2 (7 - width)
  let (value, c) ← scanTrailing lead (width - 1) c
  return (Char.ofNat value, c)

/-- Scans the characters of a tag; commas and brackets belong to it only if `verbatim`. -/
def scanTagText (verbatim : Bool) : Nat → Cursor → Option (List Char × Cursor)
  | 0, _ => none
  | fuel + 1, c =>
    match c.peek with
    | none => some ([], c)
    | some a =>
      if a = '%' then do
        let (b, c) ← scanEncoded c
        let (rest, c) ← scanTagText verbatim fuel c
        return (b :: rest, c)
      else if isTagChar a || (verbatim && (a = ',' || a = '[' || a = ']')) then
        (scanTagText verbatim fuel c.advance).map fun (rest, c) => (a :: rest, c)
      else some ([], c)

/-- Scans a tag after `head`, which has been read already; the two together are not empty. -/
def scanTagUri (verbatim : Bool) (head : List Char) (c : Cursor) : Option (List Char × Cursor) := do
  let (text, c) ← scanTagText verbatim (c.rest.length + 1) c
  if head.isEmpty && text.isEmpty then none else return (head.drop 1 ++ text, c)

/-- Scans an exclamation mark, the name after it and the mark that closes a handle. -/
def scanHandle (c : Cursor) : Option (List Char × Cursor) :=
  if c.sees '!' then
    let (name, c) := c.advance.span isNameChar
    if c.sees '!' then some ('!' :: name ++ ['!'], c.advance) else some ('!' :: name, c)
  else none

/-- Whether a text is a handle with a closing mark. -/
def isClosedHandle (handle : List Char) : Bool :=
  2 ≤ handle.length && handle.getLast? = some '!'

/-- Scans a tag into its handle and its suffix. -/
def scanTag (inFlow : Bool) (c : Cursor) : Option (Lexeme × Cursor) := do
  let (handle, suffix, c) ←
    if c.rest[1]? = some '<' then do
      let (suffix, c) ← scanTagUri true [] (c.skip 2)
      if c.sees '>' then some ([], suffix, c.advance) else none
    else do
      let (handle, c) ← scanHandle c
      if isClosedHandle handle then
        let (suffix, c) ← scanTagUri false [] c
        some (handle, suffix, c)
      else
        let (suffix, c) ← scanTagUri false handle c
        if suffix.isEmpty then some ([], ['!'], c) else some (['!'], suffix, c)
  if c.gapAt 0 || (inFlow && c.sees ',') then
    return (.tag (String.ofList handle) (String.ofList suffix), c)
  else none

/-- Scans the name of an anchor or alias after its indicator. -/
def scanName (c : Cursor) : Option (String × Cursor) :=
  let (name, c) := c.advance.span isNameChar
  if !name.isEmpty && (c.gapAt 0 || c.starts ("?:,]\x7d%@`".toList.contains ·)) then
    some (String.ofList name, c)
  else none

/-- Scans a part of a version. -/
def scanVersionPart (c : Cursor) : Option (Nat × Cursor) :=
  let (ds, c) := c.span Char.isDigit
  if ds.isEmpty || 9 < ds.length then none
  else some (ds.foldl (fun n d => 10 * n + (d.toNat - '0'.toNat)) 0, c)

/-- Scans a version. -/
def scanVersion (c : Cursor) : Option (Lexeme × Cursor) := do
  let (major, c) ← scanVersionPart (c.skipWhile isBlank)
  if c.sees '.' then
    let (minor, c) ← scanVersionPart c.advance
    return (.version major minor, c)
  else none

/-- Scans a handle and what it stands for. -/
def scanTagHandle (c : Cursor) : Option (Lexeme × Cursor) := do
  let (handle, c) ← scanHandle (c.skipWhile isBlank)
  if !isClosedHandle handle && handle != ['!'] then none
  if !c.starts isBlank then none
  let (start, c) ← scanTagUri true [] (c.skipWhile isBlank)
  if c.gapAt 0 then return (.tagHandle (String.ofList handle) (String.ofList start), c) else none

/-- Scans a directive with the rest of its line. -/
def scanDirective (c : Cursor) : Option (Lexeme × Cursor) := do
  let (name, c) := c.advance.span isNameChar
  if !c.gapAt 0 then none
  let (lexeme, c) ←
    if name = "YAML".toList then scanVersion c
    else if name = "TAG".toList then scanTagHandle c
    else none
  return (lexeme, ← c.finishLine?)

end ScatterPick.Yaml
