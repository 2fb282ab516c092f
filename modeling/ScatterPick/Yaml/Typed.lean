import ScatterPick.Config.Settings
import ScatterPick.Yaml.Value

/-!
# Typed YAML nodes

Readers of nodes of a known shape. A mismatch is reported with the path and the position of the
node that does not fit.
-/

namespace ScatterPick.Yaml

/-- The way from the root of a document to a node. -/
inductive Path where
  | root
  | field (parent : Path) (name : String)
  | item (parent : Path) (index : Nat)
  /-- A field whose name is not written at its place. -/
  | unnamed (parent : Path)
  deriving DecidableEq, Repr

namespace Path

/-- The text of a path. -/
def text : Path → String
  | root => "."
  | field root name => name
  | field parent name => parent.text ++ "." ++ name
  | item parent index => parent.text ++ "[" ++ toString index ++ "]"
  | unnamed root => "?"
  | unnamed parent => parent.text ++ ".?"

end Path

/-- A node that does not fit. -/
structure Failure where
  cause : Mismatch
  /-- The path and position to report, once they are known. -/
  place : Option (Path × Mark)
  deriving DecidableEq, Repr

namespace Failure

/-- Gives a failure a place unless it has one. -/
def locate (path : Path) (mark : Mark) (e : Failure) : Failure :=
  { e with place := some (e.place.getD (path, mark)) }

/-- The message about a node that does not fit. The start of the text is left out. -/
def message (e : Failure) : String :=
  match e.place with
  | none => e.cause.message
  | some (path, mark) =>
    let front := if path = .root then "" else path.text ++ ": "
    let back :=
      if mark.line = 0 && mark.column = 0 then ""
      else " at line " ++ toString (mark.line + 1) ++ " column " ++ toString (mark.column + 1)
    front ++ e.cause.message ++ back

end Failure

/-- The position of a node. -/
def Node.mark : Node → Mark
  | .nothing => .start
  | .scalar mark .. => mark
  | .sequence mark .. => mark
  | .mapping mark .. => mark
  | .alias mark _ => mark

/-- What a node is called in a message. -/
def Node.found : Node → Found
  | .scalar _ tag style s => ((scalarMeaning? tag style s).getD (.text s)).found
  | .sequence .. => .sequence
  | .mapping .. => .mapping
  | .nothing | .alias .. => .null "unit value"

/-- A reader of a node, which is no alias, at a path. -/
abbrev Reader (α : Type) := Path → Node → Except Failure α

/-- Follows an alias and reports failures at the node. -/
def Document.located {α : Type} (d : Document) (read : Reader α) : Reader α := fun path node =>
  let node := d.follow node
  (read path node).mapError (·.locate path node.mark)

/-- A failure that is reported by the surroundings. -/
def mismatch {α : Type} (cause : Mismatch) : Except Failure α := .error ⟨cause, none⟩

/-- A node of another kind than the wanted one. -/
def unexpected {α : Type} (node : Node) (wanted : Wanted) : Except Failure α :=
  mismatch (.kind node.found wanted)

/-- The text of a scalar that may spell a number of a core type. -/
def numberText? (core : String) : Node → Option String
  | .scalar _ tag style s =>
    if style = .plain || (style = .literal && tag = some (coreTag core)) then some s else none
  | _ => none

variable (d : Document)

/-- Reads a double. -/
def readFloat (wanted : Wanted) : Reader Float :=
  d.located fun _ node =>
    match (numberText? "float" node).bind float? with
    | some x => .ok x
    | none => unexpected node wanted

/-- Reads a double. -/
def readDouble : Reader Float := readFloat d .double

/-- Reads a single, by way of a double. -/
def readSingle : Reader Float32 := fun path node =>
  (readFloat d .single path node).map Number.narrow

/-- Reads an integer from 0 to 255. -/
def readByte : Reader UInt8 :=
  d.located fun _ node =>
    match (numberText? "int" node).bind fun s => unsigned? (Nat.pow 2 64) s.toList with
    | some n =>
      if n < 256 then .ok (UInt8.ofNat n) else mismatch (.value (.integer n) .byte)
    | none => unexpected node .byte

/-- Whether a node stands for an absent value; a wrong text with the tag of null is a mismatch. -/
def isAbsent : Node → Except Failure Bool
  | .nothing => .ok true
  | .scalar _ tag .plain s =>
    match tag with
    | none => .ok (s.isEmpty || isNull s)
    | some tag =>
      if tag = coreTag "null" then
        if isNull s then .ok true else mismatch (.value (.text s) .null)
      else .ok false
  | _ => .ok false

/-- Reads a single or null. -/
def readOptional : Reader (Option Float32) := fun path node => do
  let node := d.follow node
  if ← isAbsent node then return none else return some (← readSingle d path node)

/-- Reads the text of a scalar. -/
def readText (wanted : Wanted) : Reader String :=
  d.located fun _ node =>
    match node with
    | .scalar _ _ _ s => .ok s
    | node => unexpected node wanted

/-- Reads null after a tag. -/
def readUnit : Reader Unit :=
  d.located fun _ node =>
    match node with
    | .nothing => .ok ()
    | .scalar _ _ style s =>
      if style = .plain && (s.isEmpty || isNull s) then .ok ()
      else mismatch (.value (.text s) .null)
    | node => unexpected node .unit

/-- The tag of a node. -/
def Node.tag? : Node → Option String
  | .scalar _ tag _ _ => tag
  | .sequence _ tag _ => tag
  | .mapping _ tag _ => tag
  | _ => none

/-- Reads a key whose name is a tag. -/
def readTaggedKey (name : String) : Reader Key := fun path node => do
  match name with
  | "Shift" =>
    readUnit d path node
    return .shift
  | "Ctrl" =>
    readUnit d path node
    return .ctrl
  | "Alt" =>
    readUnit d path node
    return .alt
  | "Other" => return .other (← readText d .text path node)
  | _ => mismatch (.unknownKey name)

/-- Reads a key whose name is a scalar. -/
def readNamedKey : Reader Key :=
  d.located fun path node => do
    match node with
    | .scalar .. =>
      let name ← readText d .choiceName path node
      match name with
      | "Shift" => return .shift
      | "Ctrl" => return .ctrl
      | "Alt" => return .alt
      | "Other" => mismatch (.kind .choice .choiceWithValue)
      | _ => mismatch (.unknownKey name)
    | node => unexpected node .tag

/-- Reads a key: a name that stands alone, or a tag with a value. An unknown tag is reported by the
surroundings. -/
def readKey : Reader Key := fun path node =>
  let node := d.follow node
  match localTag? node.tag? with
  | some name => readTaggedKey d name path node
  | none => readNamedKey d path node

/-- Reads the items of a sequence from an index on. -/
def readItems {α : Type} (read : Reader α) (path : Path) (index : Nat) :
    List Node → Except Failure (List α)
  | [] => .ok []
  | n :: rest => do
    let a ← read (.item path index) n
    return a :: (← readItems read path (index + 1) rest)

/-- Reads a sequence of three numbers from 0 to 255. -/
def readColor : Reader Color :=
  d.located fun path node => do
    let items ← match node with
      | .nothing => pure []
      | .scalar _ _ .plain "" => pure []
      | .sequence _ _ items => pure items
      | node => unexpected node .color
    match ← readItems (readByte d) path 0 (items.take 3) with
    | [red, green, blue] =>
      if items.length = 3 then return ⟨red, green, blue⟩
      else mismatch (.length items.length .threeElements)
    | bytes => mismatch (.length bytes.length .color)

/-- A field of a group of settings: its name, and how it is read into a group. -/
structure GroupField (σ : Type) where
  name : String
  read : Document → σ → Reader σ

/-- The path of the member with a key. -/
def memberPath (path : Path) : Node → Path
  | .scalar _ _ _ name => .field path name
  | _ => .unnamed path

/-- Reads the members of a mapping into the fields of a group. A name without a field is skipped,
and a field occurs at most once. -/
def readMembers {σ : Type} (fields : List (GroupField σ)) (path : Path) (seen : List String)
    (group : σ) : List (Node × Node) → Except Failure σ
  | [] => .ok group
  | (key, value) :: rest => do
    let name ← readText d .fieldName path key
    match fields.find? (·.name == name) with
    | none => readMembers fields path seen group rest
    | some f =>
      if seen.contains name then mismatch (.repeatedField name)
      else
        let group ← f.read d group (memberPath path key) value
        readMembers fields path (name :: seen) group rest

/-- Reads a group of settings from a mapping. A field that is left out keeps its value in
`default`, and so does every field of an empty document. -/
def readGroup {σ : Type} (name : String) (fields : List (GroupField σ)) (default : σ) : Reader σ :=
  d.located fun path node =>
    match node with
    | .nothing => .ok default
    | .scalar _ _ .plain "" => .ok default
    | .mapping _ _ members => readMembers d fields path [] default members
    | node => unexpected node (.group name)

end ScatterPick.Yaml
