/-!
# Names of keys

The keys of a keyboard and the names they go by. Each row of the table holds the name of a key and
its other names; a text that is in no row names no key.
-/

namespace ScatterPick

/-- A key that the keyboard has, by its first name. -/
structure NamedKey where
  name : String
  deriving DecidableEq, Repr

namespace NamedKey

/-- Keys that move, edit and control, with all their names. -/
def controls : List (List String) :=
  [["Down", "ArrowDown", "⏷"], ["Left", "ArrowLeft", "⏴"], ["Right", "ArrowRight", "⏵"],
    ["Up", "ArrowUp", "⏶"], ["Escape", "Esc"], ["Tab"], ["Backspace"], ["Enter", "Return"],
    ["Space"], ["Insert", "Help"], ["Delete"], ["Home"], ["End"], ["PageUp"], ["PageDown"],
    ["Copy"], ["Cut"], ["Paste"], ["BrowserBack"]]

/-- Keys of signs, with all their names. -/
def signs : List (List String) :=
  [["Colon", ":"], ["Comma", ","], ["Minus", "-", "−"], ["Period", "."], ["Plus", "+"],
    ["Equals", "=", "Equal", "NumpadEqual"], ["Semicolon", ";"], ["Backslash", "\\"],
    ["Slash", "/"], ["Pipe", "|"], ["Questionmark", "?"], ["Exclamationmark", "!"],
    ["OpenBracket", "["], ["CloseBracket", "]"], ["OpenCurlyBracket", "\x7b"],
    ["CloseCurlyBracket", "\x7d"], ["Backtick", "`", "Backquote", "Grave"], ["Quote", "'"]]

/-- Keys of digits, with all their names. -/
def digits : List (List String) :=
  (List.range 10).map fun n => [s!"{n}", s!"Digit{n}", s!"Numpad{n}"]

/-- Keys of letters, with their names in both cases. -/
def letters : List (List String) :=
  (List.range 26).map fun n =>
    [String.singleton (Char.ofNat (65 + n)), String.singleton (Char.ofNat (97 + n))]

/-- Function keys. -/
def functions : List (List String) :=
  (List.range 35).map fun n =>
    let number := n + 1
    [s!"F{number}"]

/-- All keys with all their names. -/
def table : List (List String) := controls ++ signs ++ digits ++ letters ++ functions

/-- The key with a name. -/
def ofName? (name : String) : Option NamedKey :=
  ((table.find? (·.contains name)).bind (·.head?)).map .mk

end NamedKey

end ScatterPick
