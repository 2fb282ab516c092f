import ScatterPick.Yaml.Token

/-!
# YAML nodes

The tree that a document stands for, before scalars are given a meaning. An alias keeps the number
of the node that it refers to.
-/

namespace ScatterPick.Yaml

/-- A node of a document. -/
inductive Node where
  /-- A document without any text. -/
  | nothing
  | scalar (mark : Mark) (tag : Option String) (style : ScalarStyle) (text : String)
  | sequence (mark : Mark) (tag : Option String) (items : List Node)
  | mapping (mark : Mark) (tag : Option String) (members : List (Node × Node))
  | alias (mark : Mark) (number : Nat)
  deriving Repr

/-- A node that aliases can refer to. -/
structure Anchored where
  /-- The number that aliases use. Nodes may share one; then the last to start counts. -/
  number : Nat
  /-- The rank by start among the anchored nodes. -/
  rank : Nat
  node : Node

/-- A document with its anchored nodes. -/
structure Document where
  root : Node
  anchored : List Anchored

namespace Document

/-- The node that an alias refers to. -/
def target? (d : Document) (number : Nat) : Option Node :=
  let candidates := d.anchored.filter (·.number == number)
  (candidates.foldl (fun best a =>
    match best with
    | some (b : Anchored) => if b.rank < a.rank then some a else some b
    | none => some a) none).map (·.node)

/-- A node, or the node that it is an alias of. An anchored node is no alias. -/
def follow (d : Document) : Node → Node
  | .alias _ number => (d.target? number).getD .nothing
  | node => node

end Document

mutual

/-- The number of parts of a node: a collection counts its start and its end. -/
def Node.size : Node → Nat
  | .sequence _ _ items => 2 + itemsSize items
  | .mapping _ _ members => 2 + membersSize members
  | _ => 1

/-- The number of parts of some nodes. -/
def itemsSize : List Node → Nat
  | [] => 0
  | n :: rest => n.size + itemsSize rest

/-- The number of parts of some pairs of nodes. -/
def membersSize : List (Node × Node) → Nat
  | [] => 0
  | (k, v) :: rest => k.size + v.size + membersSize rest

end

end ScatterPick.Yaml
