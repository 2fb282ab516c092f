import ScatterPick.Text.Blank

/-!
# Keys

The key that switches gestures into additive mode. Reading a key trims the text and ignores the
case of the modifier names; any other name is kept as it stands.
-/

namespace ScatterPick

/-- A key as a canvas reports it. -/
inductive Key where
  | shift
  | ctrl
  | alt
  | other (name : String)
  deriving DecidableEq, Repr

namespace Key

/-- The name of a key. -/
def text : Key → String
  | shift => "Shift"
  | ctrl => "Ctrl"
  | alt => "Alt"
  | other name => name

/-- The text in lower case. No letter outside ASCII folds to a modifier name, so ASCII decides. -/
def folded (name : String) : String := name.map Char.toLower

/-- The key with a name that has no blanks around it, by the name in lower case. -/
def ofWord (word name : String) : Key :=
  if word = "shift" then shift
  else if word = "ctrl" ∨ word = "control" then ctrl
  else if word = "alt" ∨ word = "option" then alt
  else other name

/-- Why a text is no key. -/
inductive ParseError where
  | emptyName
  deriving DecidableEq, Repr

/-- The wording of an error. -/
def ParseError.message : ParseError → String
  | emptyName => "empty key"

/-- Reads a key, where `lower` takes names to lower case. -/
def parseWith (lower : String → String) (s : String) : Except ParseError Key :=
  let name := Text.trim s
  if name.isEmpty then .error .emptyName else .ok (ofWord (lower name) name)

/-- Reads a key. -/
def parse (s : String) : Except ParseError Key := parseWith folded s

end Key

end ScatterPick
