import ScatterPick.Text.Quoted

/-!
# JSON values

JSON values and their two written forms: on one line, and indented by two spaces per level.
-/

namespace ScatterPick

/-- A JSON value. A number is kept as its text. -/
inductive Json where
  | null
  | number (text : String)
  | text (value : String)
  | array (items : List Json)
  | object (members : List (String × Json))

namespace Json

/-- One character of a JSON string. -/
def writeChar (c : Char) : List Char :=
  match c with
  | '"' => ['\\', '"']
  | '\\' => ['\\', '\\']
  | '\x08' => ['\\', 'b']
  | '\x0c' => ['\\', 'f']
  | '\n' => ['\\', 'n']
  | '\r' => ['\\', 'r']
  | '\t' => ['\\', 't']
  | c =>
    if c.toNat < 0x10 then ['\\', 'u', '0', '0', '0'] ++ Text.hexDigits c.toNat
    else if c.toNat < 0x20 then ['\\', 'u', '0', '0'] ++ Text.hexDigits c.toNat
    else [c]

/-- A JSON string. -/
def writeText (s : String) : List Char := '"' :: s.toList.flatMap writeChar ++ ['"']

mutual

/-- A value on one line. -/
def compact : Json → List Char
  | null => "null".toList
  | number written => written.toList
  | text value => writeText value
  | array items => '[' :: compactItems items ++ [']']
  | object members => '\x7b' :: compactMembers members ++ ['\x7d']

/-- The items of an array on one line. -/
def compactItems : List Json → List Char
  | [] => []
  | [v] => compact v
  | v :: rest => compact v ++ ',' :: compactItems rest

/-- The members of an object on one line. -/
def compactMembers : List (String × Json) → List Char
  | [] => []
  | [(name, v)] => writeText name ++ ':' :: compact v
  | (name, v) :: rest => writeText name ++ ':' :: compact v ++ ',' :: compactMembers rest

end

/-- The start of a line at a level of nesting. -/
def newline (level : Nat) : List Char := '\n' :: List.replicate (2 * level) ' '

mutual

/-- A value over several lines, from a level of nesting on. -/
def indented (level : Nat) : Json → List Char
  | array [] => ['[', ']']
  | array (v :: rest) =>
    '[' :: newline (level + 1) ++ indented (level + 1) v ++ indentedItems (level + 1) rest ++
      newline level ++ [']']
  | object [] => ['\x7b', '\x7d']
  | object ((name, v) :: rest) =>
    '\x7b' :: newline (level + 1) ++ writeText name ++ [':', ' '] ++ indented (level + 1) v ++
      indentedMembers (level + 1) rest ++ newline level ++ ['\x7d']
  | null => "null".toList
  | number written => written.toList
  | text value => writeText value

/-- The items after the first, each on a line of its own. -/
def indentedItems (level : Nat) : List Json → List Char
  | [] => []
  | v :: rest => ',' :: newline level ++ indented level v ++ indentedItems level rest

/-- The members after the first, each on a line of its own. -/
def indentedMembers (level : Nat) : List (String × Json) → List Char
  | [] => []
  | (name, v) :: rest =>
    ',' :: newline level ++ writeText name ++ [':', ' '] ++ indented level v ++
      indentedMembers level rest

end

/-- The text of a value on one line. -/
def line (v : Json) : String := String.ofList v.compact

/-- The text of a value over several lines. -/
def pretty (v : Json) : String := String.ofList (v.indented 0)

end Json

end ScatterPick
