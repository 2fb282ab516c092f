import ScatterPick.Yaml.Node
import ScatterPick.Yaml.Token.Lexer

/-!
# Building nodes

The grammar of YAML over tokens. A missing key or value is an empty plain scalar. A text holds at
most one document here.
-/

namespace ScatterPick.Yaml

/-- The state between two nodes. -/
structure Builder where
  tokens : List Token
  /-- What the handles of tags stand for. -/
  handles : List (String × String)
  /-- The anchor names so far, with the number that each has last been given. -/
  names : List (String × Nat)
  /-- How many anchors have been set. -/
  anchors : Nat
  anchored : List Anchored

/-- A step of building. -/
abbrev Build (α : Type) := StateT Builder Option α

namespace Builder

/-- The end of the tokens. -/
def endToken : Token := ⟨.streamEnd, .start⟩

/-- The next token. -/
def peek : Build Token := fun b => some (b.tokens.head?.getD endToken, b)

/-- Skips the next token. -/
def skip : Build Unit := fun b => some ((), { b with tokens := b.tokens.tail })

/-- Takes the next token if it is the given one. -/
def accept (lexeme : Lexeme) : Build Bool := do
  if (← peek).lexeme = lexeme then
    skip
    return true
  else return false

/-- Takes the next token, which has to be the given one. -/
def expect (lexeme : Lexeme) : Build Unit := do
  if !(← accept lexeme) then failure

/-- The node where there is no text. -/
def blank (mark : Mark) : Node := .scalar mark none .plain ""

/-- Sets an anchor: the number of its nodes and their rank. -/
def setAnchor (name : String) : Build (Nat × Nat) := fun b =>
  let number := b.names.length
  let names := if b.names.any (·.1 == name) then
      b.names.map fun p => if p.1 == name then (name, number) else p
    else b.names ++ [(name, number)]
  some ((number, b.anchors), { b with names, anchors := b.anchors + 1 })

/-- Keeps a finished node for its aliases. -/
def keep (number rank : Nat) (node : Node) : Build Unit := fun b =>
  some ((), { b with anchored := ⟨number, rank, node⟩ :: b.anchored })

/-- The number of an anchor that has been set. -/
def numberOf (name : String) : Build Nat := fun b =>
  (b.names.find? (·.1 == name)).map fun p => (p.2, b)

/-- The handles that need no directive. -/
def standardHandles : List (String × String) := [("!", "!"), ("!!", "tag:yaml.org,2002:")]

/-- The whole tag of a handle and a suffix. -/
def resolveTag (handle suffix : String) : Build String := fun b =>
  if handle.isEmpty then some (suffix, b)
  else
    ((b.handles ++ standardHandles).find? (·.1 == handle)).map fun p => (p.2 ++ suffix, b)

/-- Takes an anchor if there is one. -/
def acceptAnchor : Build (Option String) := do
  match (← peek).lexeme with
  | .anchor name =>
    skip
    return some name
  | _ => return none

/-- Takes a tag if there is one. -/
def acceptTag : Build (Option String) := do
  match (← peek).lexeme with
  | .tag handle suffix =>
    skip
    return some (← resolveTag handle suffix)
  | _ => return none

/-- Takes an anchor and a tag in either order. -/
def acceptProperties : Build (Option String × Option String) := do
  match ← acceptAnchor with
  | some name => return (some name, ← acceptTag)
  | none =>
    match ← acceptTag with
    | some tag => return (← acceptAnchor, some tag)
    | none => return (none, none)

/-- Whether a token ends an entry of a block sequence without text. -/
def endsEntry : Lexeme → Bool
  | .entry | .blockEnd => true
  | _ => false

/-- Whether a token ends an entry without text in a sequence that is not indented. -/
def endsLooseEntry : Lexeme → Bool
  | .entry | .key | .value | .blockEnd => true
  | _ => false

/-- Whether a token ends a key or value without text in a block mapping. -/
def endsMember : Lexeme → Bool
  | .key | .value | .blockEnd => true
  | _ => false

mutual

/-- Builds a node. Block collections need `block`, and a block sequence without indentation of its
own needs `loose`. -/
def node (block loose : Bool) : Nat → Build Node
  | 0 => failure
  | fuel + 1 => do
    let first ← peek
    match first.lexeme with
    | .alias name =>
      skip
      return .alias first.mark (← numberOf name)
    | _ =>
      let (anchor, tag) ← acceptProperties
      let content := content block loose first.mark tag (anchor.isSome || tag.isSome) fuel
      match anchor with
      | none => content
      | some name =>
        let (number, rank) ← setAnchor name
        let node ← content
        keep number rank node
        return node

/-- Builds what follows the properties of a node. -/
def content (block loose : Bool) (mark : Mark) (tag : Option String) (hasProperties : Bool) :
    Nat → Build Node
  | 0 => failure
  | fuel + 1 => do
    let token ← peek
    match token.lexeme with
    | .scalar style text =>
      skip
      return .scalar mark (tag.filter (· != "!")) style text
    | .flowSequence =>
      skip
      return .sequence mark tag (← flowItems true fuel)
    | .flowMapping =>
      skip
      return .mapping mark tag (← flowMembers true fuel)
    | lexeme =>
      if loose && lexeme = .entry then return .sequence mark tag (← looseItems fuel)
      else if block && lexeme = .blockSequence then
        skip
        return .sequence mark tag (← blockItems fuel)
      else if block && lexeme = .blockMapping then
        skip
        return .mapping mark tag (← blockMembers fuel)
      else if hasProperties then return .scalar mark (tag.filter (· != "")) .plain ""
      else failure

/-- Builds the entries of a block sequence with its end. -/
def blockItems : Nat → Build (List Node)
  | 0 => failure
  | fuel + 1 => do
    let token ← peek
    match token.lexeme with
    | .entry =>
      skip
      let item ← if endsEntry (← peek).lexeme then pure (blank token.mark.next)
        else node true false fuel
      return item :: (← blockItems fuel)
    | .blockEnd =>
      skip
      return []
    | _ => failure

/-- Builds the entries of a block sequence without indentation of its own. -/
def looseItems : Nat → Build (List Node)
  | 0 => failure
  | fuel + 1 => do
    let token ← peek
    if token.lexeme = .entry then
      skip
      let item ← if endsLooseEntry (← peek).lexeme then pure (blank token.mark.next)
        else node true false fuel
      return item :: (← looseItems fuel)
    else return []

/-- Builds the members of a block mapping with its end. -/
def blockMembers : Nat → Build (List (Node × Node))
  | 0 => failure
  | fuel + 1 => do
    let token ← peek
    match token.lexeme with
    | .key =>
      skip
      let key ← if endsMember (← peek).lexeme then pure (blank token.mark.next)
        else node true true fuel
      let value ← blockValue fuel
      return (key, value) :: (← blockMembers fuel)
    | .blockEnd =>
      skip
      return []
    | _ => failure

/-- Builds the value after a key of a block mapping. -/
def blockValue : Nat → Build Node
  | 0 => failure
  | fuel + 1 => do
    let token ← peek
    if token.lexeme = .value then
      skip
      if endsMember (← peek).lexeme then return blank token.mark.next else node true true fuel
    else return blank token.mark

/-- Builds the items of a flow sequence with its end. -/
def flowItems (first : Bool) : Nat → Build (List Node)
  | 0 => failure
  | fuel + 1 => do
    if ← accept .flowSequenceEnd then return []
    if !first then expect .comma
    let token ← peek
    match token.lexeme with
    | .flowSequenceEnd =>
      skip
      return []
    | .key =>
      skip
      let member ← flowPair fuel
      return .mapping token.mark none [member] :: (← flowItems false fuel)
    | _ =>
      let item ← node false false fuel
      return item :: (← flowItems false fuel)

/-- Builds the only member of a mapping inside a flow sequence. A missing key swallows the token
after the question mark. -/
def flowPair : Nat → Build (Node × Node)
  | 0 => failure
  | fuel + 1 => do
    let token ← peek
    let key ← match token.lexeme with
      | .value | .comma | .flowSequenceEnd => do
        skip
        pure (blank token.mark.next)
      | _ => node false false fuel
    let token ← peek
    if token.lexeme = .value then
      skip
      let token ← peek
      match token.lexeme with
      | .comma | .flowSequenceEnd => return (key, blank token.mark)
      | _ => return (key, ← node false false fuel)
    else return (key, blank token.mark)

/-- Builds the members of a flow mapping with its end. -/
def flowMembers (first : Bool) : Nat → Build (List (Node × Node))
  | 0 => failure
  | fuel + 1 => do
    if ← accept .flowMappingEnd then return []
    if !first then expect .comma
    let token ← peek
    match token.lexeme with
    | .flowMappingEnd =>
      skip
      return []
    | .key =>
      skip
      let token ← peek
      let key ← match token.lexeme with
        | .value | .comma | .flowMappingEnd => pure (blank token.mark)
        | _ => node false false fuel
      let value ← flowValue fuel
      return (key, value) :: (← flowMembers false fuel)
    | _ =>
      let key ← node false false fuel
      let value := blank (← peek).mark
      return (key, value) :: (← flowMembers false fuel)

/-- Builds the value after a key of a flow mapping. -/
def flowValue : Nat → Build Node
  | 0 => failure
  | fuel + 1 => do
    let token ← peek
    if token.lexeme = .value then
      skip
      let token ← peek
      match token.lexeme with
      | .comma | .flowMappingEnd => return blank token.mark
      | _ => node false false fuel
    else return blank token.mark

end

/-- Takes directives: whether a version has been given, and the handles. -/
def directives (version : Bool) (handles : List (String × String)) : Nat →
    Build (List (String × String))
  | 0 => failure
  | fuel + 1 => do
    match (← peek).lexeme with
    | .version major minor =>
      skip
      if version || major != 1 || (minor != 1 && minor != 2) then failure
      directives true handles fuel
    | .tagHandle handle start =>
      skip
      if handles.any (·.1 == handle) then failure
      directives version (handles ++ [(handle, start)]) fuel
    | _ => return handles

/-- Whether a document may start without a rule before a token. -/
def startsDocument : Lexeme → Bool
  | .version .. | .tagHandle .. | .documentStart | .streamEnd => false
  | _ => true

/-- Whether a document ends without text before a token. -/
def endsDocument : Lexeme → Bool
  | .version .. | .tagHandle .. | .documentStart | .documentEnd | .streamEnd => true
  | _ => false

/-- Builds the root of the only document. -/
def root (fuel : Nat) : Build Node := do
  let token ← peek
  if token.lexeme = .streamEnd then return .nothing
  if startsDocument token.lexeme then node true false fuel
  else
    let handles ← directives false [] fuel
    modify fun b => { b with handles }
    expect .documentStart
    let token ← peek
    if endsDocument token.lexeme then return blank token.mark else node true false fuel

/-- Takes the rules after the only document, up to the end of the tokens. -/
def documentEnds : Nat → Build Unit
  | 0 => failure
  | fuel + 1 => do
    if ← accept .documentEnd then documentEnds fuel
    else if (← peek).lexeme != .streamEnd then failure

end Builder

/-- The document that some tokens make up. -/
def Document.ofTokens? (tokens : List Token) : Option Document := do
  let fuel := 3 * tokens.length + 3
  let build : Build Node := do
    let node ← Builder.root fuel
    Builder.documentEnds fuel
    return node
  let (root, b) ← build ⟨tokens, [], [], 0, []⟩
  return ⟨root, b.anchored⟩

/-- The document of a text, which holds at most one. -/
def Document.read? (text : String) : Option Document := do
  let tokens ← scan text.toList
  ofTokens? tokens.toList

end ScatterPick.Yaml
