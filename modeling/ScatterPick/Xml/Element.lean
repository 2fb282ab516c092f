import ScatterPick.Xml.Markup

/-!
# Elements

The tree that the tags of a document form. Names are told apart by their space: tags and attributes
abbreviate it by the part in front of the colon.
-/

namespace ScatterPick.Xml

/-- A name with its space. -/
structure Name where
  space : Option String
  base : String
  deriving DecidableEq, Repr

/-- An element without its text. -/
inductive Element where
  | mk (name : Name) (attributes : List (Name × String)) (children : List Element)
  deriving Repr

namespace Element

/-- The name of an element. -/
def name : Element → Name
  | mk name _ _ => name

/-- The attributes of an element. -/
def attributes : Element → List (Name × String)
  | mk _ attributes _ => attributes

/-- The elements in an element. -/
def children : Element → List Element
  | mk _ _ children => children

/-- The value of an attribute without a space. -/
def attribute? (e : Element) (base : String) : Option String := e.attributes.lookup ⟨none, base⟩

end Element

/-- The spaces of the abbreviations in reach, the innermost first. -/
abbrev Scope := List (String × String)

/-- The space of the abbreviation that needs no declaration. -/
def standardScope : Scope := [("xml", "http://www.w3.org/XML/1998/namespace")]

/-- The space that an abbreviation stands for; an empty one is no space. -/
def Scope.resolve? (scope : Scope) (qualifier : String) : Option (Option String) :=
  match scope.lookup qualifier with
  | some space => some (if space.isEmpty then none else some space)
  | none => if qualifier.isEmpty then some none else none

/-- The abbreviation that an attribute declares. -/
def declared? (a : QName × String) : Option (String × String) :=
  if a.1.qualifier.isEmpty && a.1.base = "xmlns" then some ("", a.2)
  else if a.1.qualifier = "xmlns" then some (a.1.base, a.2)
  else none

/-- Whether no two members of a list are equal. -/
def distinct {α : Type} [BEq α] : List α → Bool
  | [] => true
  | x :: xs => !xs.contains x && distinct xs

/-- An element that is still open. -/
structure OpenElement where
  written : QName
  name : Name
  attributes : List (Name × String)
  scope : Scope
  /-- The elements in it so far, the last one first. -/
  children : List Element := []

namespace OpenElement

/-- Opens an element in a scope. -/
def ofTag? (scope : Scope) (written : QName) (attributes : List (QName × String)) :
    Option OpenElement := do
  let declarations := attributes.filterMap declared?
  let scope : Scope := declarations ++ scope
  let space ← scope.resolve? written.qualifier
  let plain := attributes.filter fun a => (declared? a).isNone
  let named ← plain.mapM fun (q, value) => do
    let space ← if q.qualifier.isEmpty then some none else scope.resolve? q.qualifier
    some ((⟨space, q.base⟩, value) : Name × String)
  if distinct (declarations.map (·.1)) && distinct (named.map (·.1)) then
    some ⟨written, ⟨space, written.base⟩, named, scope, []⟩
  else none

/-- Closes an element. -/
def close (e : OpenElement) : Element := .mk e.name e.attributes e.children.reverse

end OpenElement

/-- A document that is being read. -/
structure Builder where
  /-- The open elements, the innermost first. -/
  stack : List OpenElement := []
  root : Option Element := none

namespace Builder

/-- The scope of the next element. -/
def scope (b : Builder) : Scope := (b.stack.head?.map (·.scope)).getD standardScope

/-- Places a finished element in the open one, or makes it the root. -/
def place (b : Builder) (e : Element) : Builder :=
  match b.stack with
  | [] => { b with root := some e }
  | parent :: stack =>
    { b with stack := { parent with children := e :: parent.children } :: stack }

/-- Takes a piece of a document. There is one root, and nothing but blanks and notes outside. -/
def add (b : Builder) (piece : Markup) : Option Builder :=
  match piece with
  | .note => some b
  | .text raw => if b.stack.isEmpty && !raw.all isBlank then none else some b
  | .data => if b.stack.isEmpty then none else some b
  | .opening name attributes closed =>
    if b.stack.isEmpty && b.root.isSome then none
    else (OpenElement.ofTag? b.scope name attributes).map fun e =>
      if closed then b.place e.close else { b with stack := e :: b.stack }
  | .closing name =>
    match b.stack with
    | [] => none
    | e :: stack => if e.written = name then some ({ b with stack }.place e.close) else none

/-- The root of a whole document. -/
def finish (b : Builder) : Option Element := if b.stack.isEmpty then b.root else none

end Builder

/-- The root of a row of pieces. -/
def Element.ofMarkup? (pieces : List Markup) : Option Element :=
  (pieces.foldlM Builder.add ({} : Builder)).bind Builder.finish

end ScatterPick.Xml
