import ScatterPick.Xml.Character

/-!
# Markup

A document is a row of tags and texts. Comments and instructions to programs are left out.
-/

namespace ScatterPick.Xml

/-- A name as it is written, with the part in front of the colon. -/
structure QName where
  /-- The part in front of the colon, empty without one. -/
  qualifier : String
  base : String
  deriving DecidableEq, Repr

/-- A piece of a document. -/
inductive Markup where
  /-- A tag that opens an element; `closed` if the element ends with it. -/
  | opening (name : QName) (attributes : List (QName × String)) (closed : Bool)
  | closing (name : QName)
  /-- Text as it is written. -/
  | text (raw : List Char)
  /-- Text in which nothing is marked up. -/
  | data
  /-- A comment, or an instruction to a program. -/
  | note
  deriving DecidableEq, Repr

namespace Markup

/-- The text behind another one at the front. -/
def after? (front : String) (cs : List Char) : Option (List Char) := front.toList.isPrefixOf? cs

/-- The text up to a mark, and the text behind it. -/
def upTo? (mark : String) : List Char → Option (List Char × List Char)
  | [] => none
  | c :: rest =>
    match after? mark (c :: rest) with
    | some behind => some ([], behind)
    | none => (upTo? mark rest).map fun (front, behind) => (c :: front, behind)

/-- Drops blank space. -/
def skipBlanks (cs : List Char) : List Char := cs.dropWhile isBlank

/-- Reads a name without a colon. -/
def simpleName? : List Char → Option (String × List Char)
  | [] => none
  | c :: rest =>
    if isNameStart c then
      some (String.ofList (c :: rest.takeWhile isNameCharacter), rest.dropWhile isNameCharacter)
    else none

/-- Reads a name. -/
def name? (cs : List Char) : Option (QName × List Char) := do
  let (first, rest) ← simpleName? cs
  match rest with
  | ':' :: rest =>
    let (second, rest) ← simpleName? rest
    some (⟨first, second⟩, rest)
  | _ => some (⟨"", first⟩, rest)

/-- Text of an attribute: references are replaced, and any blank becomes a space. -/
def attributeText? (raw : List Char) : Option String :=
  (unescape? (raw.map fun c => if isBlank c then ' ' else c)).map String.ofList

/-- Reads an attribute. -/
def attribute? (cs : List Char) : Option ((QName × String) × List Char) := do
  let (name, rest) ← name? cs
  let rest ← after? "=" (skipBlanks rest)
  match skipBlanks rest with
  | quote :: rest =>
    if quote = '"' || quote = '\'' then
      let raw := rest.takeWhile fun c => c != quote && c != '<'
      match rest.drop raw.length with
      | c :: rest =>
        if c = quote then
          let value ← attributeText? raw
          some ((name, value), rest)
        else none
      | [] => none
    else none
  | [] => none

/-- Reads attributes up to the end of a tag, with blanks in front of each. -/
def attributes? : Nat → List Char → Option (List (QName × String) × Bool × List Char)
  | 0, _ => none
  | fuel + 1, cs =>
    match skipBlanks cs with
    | '>' :: rest => some ([], false, rest)
    | '/' :: '>' :: rest => some ([], true, rest)
    | next =>
      if next.length = cs.length then none
      else do
        let (a, rest) ← attribute? next
        let (as, closed, rest) ← attributes? fuel rest
        some (a :: as, closed, rest)

/-- Reads a comment behind its first mark. Two dashes end it. -/
def comment? (cs : List Char) : Option (Markup × List Char) := do
  let (_, rest) ← upTo? "--" cs
  let rest ← after? ">" rest
  some (note, rest)

/-- Reads an instruction behind its first mark; a declaration is none. -/
def instruction? (cs : List Char) : Option (Markup × List Char) := do
  if (after? "xml " cs).isSome then none
  else
    let (_, rest) ← simpleName? cs
    let (_, rest) ← upTo? "?>" rest
    some (note, rest)

/-- Reads a tag that opens an element, behind its first mark. -/
def opening? (cs : List Char) : Option (Markup × List Char) := do
  let (name, rest) ← name? cs
  let (attributes, closed, rest) ← attributes? rest.length rest
  some (opening name attributes closed, rest)

/-- Reads a tag that closes an element, behind its first mark. -/
def closing? (cs : List Char) : Option (Markup × List Char) := do
  let (name, rest) ← name? cs
  let rest ← after? ">" (skipBlanks rest)
  some (closing name, rest)

/-- Reads text up to the next tag. -/
def text? (cs : List Char) : Option (Markup × List Char) :=
  let raw := cs.takeWhile (· != '<')
  if (upTo? "]]>" raw).isSome || (unescape? raw).isNone then none
  else some (text raw, cs.drop raw.length)

/-- Reads a piece. -/
def read? : List Char → Option (Markup × List Char)
  | '<' :: '!' :: '-' :: '-' :: rest => comment? rest
  | '<' :: '!' :: rest => do
    let (_, rest) ← (after? "[CDATA[" rest).bind (upTo? "]]>")
    some (data, rest)
  | '<' :: '?' :: rest => instruction? rest
  | '<' :: '/' :: rest => closing? rest
  | '<' :: rest => opening? rest
  | cs => text? cs

/-- Reads pieces up to the end. -/
def readAll? : Nat → List Char → Option (List Markup)
  | _, [] => some []
  | 0, _ => none
  | fuel + 1, cs => do
    let (piece, rest) ← read? cs
    let pieces ← readAll? fuel rest
    some (piece :: pieces)

end Markup

end ScatterPick.Xml
