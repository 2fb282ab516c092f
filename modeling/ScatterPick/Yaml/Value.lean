import ScatterPick.Yaml.Node.Builder
import ScatterPick.Yaml.Scalar

/-!
# YAML values

What a document means by itself, without a shape that somebody asks for. A document has a value if
its core tags fit, no mapping repeats a key, and its nesting and its aliases stay within bounds.
-/

namespace ScatterPick.Yaml

/-- A value. -/
inductive Value where
  | null
  | boolean (value : Bool)
  | integer (value : Int)
  | fraction (value : Float)
  | text (value : String)
  | sequence (items : List Value)
  | mapping (members : List (Value × Value))
  | tagged (name : String) (value : Value)

namespace Value

/-- Equality of numbers, where an undefined one equals itself. -/
def sameFraction (a b : Float) : Bool := a == b || (a.isNaN && b.isNaN)

mutual

/-- Equality of values. The order of the members of a mapping does not matter. -/
def same : Value → Value → Bool
  | null, null => true
  | boolean a, boolean b => a == b
  | integer a, integer b => a == b
  | fraction a, fraction b => sameFraction a b
  | text a, text b => a == b
  | sequence as, sequence bs => sameItems as bs
  | mapping as, mapping bs => as.length == bs.length && sameMembers as bs
  | tagged n a, tagged m b => n == m && same a b
  | _, _ => false

/-- Equality of lists of values. -/
def sameItems : List Value → List Value → Bool
  | [], [] => true
  | a :: as, b :: bs => same a b && sameItems as bs
  | _, _ => false

/-- Whether every member of the first list occurs in the second. -/
def sameMembers : List (Value × Value) → List (Value × Value) → Bool
  | [], _ => true
  | (k, v) :: rest, bs => (bs.any fun b => same k b.1 && same v b.2) && sameMembers rest bs

end

end Value

/-- The tag of a core type. -/
def coreTag (name : String) : String := "tag:yaml.org,2002:" ++ name

/-- The name in a local tag, which starts with an exclamation mark. -/
def localTag? (tag : Option String) : Option String :=
  tag.bind fun tag =>
    match tag.toList with
    | '!' :: [] => some "!"
    | '!' :: name => some (String.ofList name)
    | _ => none

/-- The meaning of a scalar. A core tag that does not fit leaves none. -/
def scalarMeaning? (tag : Option String) (style : ScalarStyle) (s : String) : Option Meaning :=
  let untagged := if style = .plain then plainMeaning s else .text s
  match tag with
  | none => some untagged
  | some tag =>
    if tag = coreTag "bool" then (boolean? s).map .boolean
    else if tag = coreTag "int" then integer? s
    else if tag = coreTag "float" then (float? s).map .fraction
    else if tag = coreTag "null" then if isNull s then some .null else none
    else if tag.startsWith "!" then some untagged
    else some (.text s)

/-- The value of a meaning; integers beyond 64 bits have none. -/
def Meaning.value? : Meaning → Option Value
  | null => some .null
  | boolean b => some (.boolean b)
  | integer n => some (.integer n)
  | wideInteger _ => none
  | fraction x => some (.fraction x)
  | text s => some (.text s)

/-- How deep collections may be nested. -/
def maxDepth : Nat := 128

/-- The name and the contents of something with a local tag, or else the contents. -/
def withTag (tag : Option String) (v : Value) : Value :=
  match localTag? tag with
  | some name => .tagged name v
  | none => v

/-- The value of a node. `depth` bounds the nesting of collections, `fuel` that of nodes, and the
state is the number of aliases that may still be followed. -/
def Document.value? (d : Document) (depth : Nat) : Nat → Node → StateT Nat Option Value
  | 0, _ => failure
  | fuel + 1, n =>
    match n with
    | .nothing => return .null
    | .scalar _ tag style s =>
      match (scalarMeaning? tag style s).bind Meaning.value? with
      | some v => return withTag tag v
      | none => failure
    | .alias _ number => do
      let left ← get
      if left = 0 then failure
      set (left - 1)
      match d.target? number with
      | some target => d.value? depth fuel target
      | none => failure
    | .sequence _ tag items => do
      if depth = 0 then failure
      let values ← items.mapM (d.value? (depth - 1) fuel)
      return withTag tag (.sequence values)
    | .mapping _ tag members => do
      if depth = 0 then failure
      let values ← members.foldlM (fun (sofar : List (Value × Value)) m => do
        let k ← d.value? (depth - 1) fuel m.1
        if sofar.any fun p => k.same p.1 then failure
        let v ← d.value? (depth - 1) fuel m.2
        return sofar ++ [(k, v)]) []
      return withTag tag (.mapping values)

/-- Whether a document has a value by itself. -/
def Document.isValue (d : Document) : Bool :=
  (d.value? maxDepth (2 * maxDepth + 3) d.root (100 * d.root.size)).isSome

end ScatterPick.Yaml
