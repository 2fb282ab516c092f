import ScatterPick.Text.Hexadecimal

/-!
# Characters of documents

Which characters may stand in a document and in a name, and the characters that references stand
for.
-/

namespace ScatterPick.Xml

/-- Whether a code point may stand in a document. -/
def isCharacter (n : Nat) : Bool :=
  n = 9 || n = 10 || n = 13 || (0x20 ≤ n && n ≤ 0xd7ff) || (0xe000 ≤ n && n ≤ 0xfffd) ||
    (0x10000 ≤ n && n ≤ 0x10ffff)

/-- Whether a character is blank space. -/
def isBlank (c : Char) : Bool := c = ' ' || c = '\t' || c = '\n' || c = '\r'

/-- The ranges of characters beyond the basic ones that can begin a name. -/
def nameRanges : List (Nat × Nat) :=
  [(0xc0, 0xd6), (0xd8, 0xf6), (0xf8, 0x2ff), (0x370, 0x37d), (0x37f, 0x1fff), (0x200c, 0x200d),
    (0x2070, 0x218f), (0x2c00, 0x2fef), (0x3001, 0xd7ff), (0xf900, 0xfdcf), (0xfdf0, 0xfffd),
    (0x10000, 0xeffff)]

/-- The ranges of characters beyond the basic ones that only continue a name. -/
def laterNameRanges : List (Nat × Nat) := [(0xb7, 0xb7), (0x300, 0x36f), (0x203f, 0x2040)]

/-- Whether a character is in one of some ranges. -/
def inRanges (ranges : List (Nat × Nat)) (c : Char) : Bool :=
  ranges.any fun (low, high) => low ≤ c.toNat && c.toNat ≤ high

/-- Whether a character can begin a name. -/
def isNameStart (c : Char) : Bool := c.isAlpha || c = '_' || inRanges nameRanges c

/-- Whether a character can continue a name. -/
def isNameCharacter (c : Char) : Bool :=
  isNameStart c || c.isDigit || c = '-' || c = '.' || inRanges laterNameRanges c

/-- The value of a run of decimal digits. -/
def decimalValue? (cs : List Char) : Option Nat :=
  if cs.all Char.isDigit then some (cs.foldl (fun n c => 10 * n + (c.toNat - '0'.toNat)) 0)
  else none

/-- The character with a code point that may stand in a document. -/
def ofCodePoint? (n : Nat) : Option Char :=
  if isCharacter n then some (Char.ofNat n) else none

/-- The character that a reference stands for, between its marks. -/
def reference? : List Char → Option Char
  | ['l', 't'] => some '<'
  | ['g', 't'] => some '>'
  | ['a', 'm', 'p'] => some '&'
  | ['q', 'u', 'o', 't'] => some '"'
  | ['a', 'p', 'o', 's'] => some '\''
  | '#' :: 'x' :: d :: ds => (Text.hexValue? (d :: ds)).bind ofCodePoint?
  | '#' :: d :: ds => (decimalValue? (d :: ds)).bind ofCodePoint?
  | _ => none

/-- Replaces references in a text of at most `fuel` characters. -/
def expand : Nat → List Char → Option (List Char)
  | _, [] => some []
  | 0, _ => none
  | fuel + 1, '&' :: rest =>
    match rest.dropWhile (· != ';') with
    | [] => none
    | _ :: behind => do
      let c ← reference? (rest.takeWhile (· != ';'))
      let cs ← expand fuel behind
      some (c :: cs)
  | fuel + 1, c :: rest => (expand fuel rest).map (c :: ·)

/-- Replaces the references in a text. -/
def unescape? (cs : List Char) : Option (List Char) := expand cs.length cs

end ScatterPick.Xml
