import ScatterPick.Xml.Element

/-!
# Documents

A document can begin with a byte order mark and a declaration, and can name its type before the
root.
-/

namespace ScatterPick.Xml

open Markup

/-- Drops a part of a declaration, with blank space in front of it, if it is there. -/
def dropPart (name : String) (cs : List Char) : Option (List Char) :=
  let next := skipBlanks cs
  if next.length < cs.length && (after? name next).isSome then (attribute? next).map (·.2)
  else some cs

/-- Drops the declaration at the front, which names at least the version. -/
def dropDeclaration (cs : List Char) : Option (List Char) :=
  match after? "<?xml " cs with
  | none => some cs
  | some rest => do
    if (after? "version" (skipBlanks rest)).isSome then
      let rest ← dropPart "version" (' ' :: rest)
      let rest ← dropPart "encoding" rest
      let rest ← dropPart "standalone" rest
      after? "?>" (skipBlanks rest)
    else none

/-- Drops a type up to its end mark, which does not count between brackets. -/
def dropType (inside : Bool) : List Char → Option (List Char)
  | [] => none
  | c :: rest =>
    if c = '[' then dropType true rest
    else if c = ']' then dropType false rest
    else if c = '>' && !inside then some rest
    else dropType inside rest

/-- Drops blanks and notes at the front. -/
def dropNotes : Nat → List Char → List Char
  | 0, cs => cs
  | fuel + 1, cs =>
    let cs := skipBlanks cs
    match read? cs with
    | some (.note, rest) => dropNotes fuel rest
    | _ => cs

/-- Drops the type of a document at the front. -/
def dropDoctype (cs : List Char) : Option (List Char) :=
  let cs := dropNotes cs.length cs
  match after? "<!DOCTYPE" cs with
  | none => some cs
  | some rest => dropType false rest

/-- The root of a document. -/
def Element.read? (text : String) : Option Element := do
  let cs := text.toList
  let cs := match cs with
    | '\ufeff' :: cs => cs
    | cs => cs
  if cs.all fun c => isCharacter c.toNat then
    let cs ← dropDeclaration cs
    let cs ← dropDoctype cs
    let pieces ← readAll? cs.length cs
    Element.ofMarkup? pieces
  else none

end ScatterPick.Xml
