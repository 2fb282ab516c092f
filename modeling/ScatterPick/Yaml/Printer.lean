import ScatterPick.Text.Hexadecimal
import ScatterPick.Yaml.Character
import ScatterPick.Yaml.Scalar

/-!
# Writing YAML

The written form of texts and of nested groups. A text is plain if nobody could take it for
something else, quoted if somebody could, and a literal block if it has lines.
-/

namespace ScatterPick.Yaml

/-- A group of settings as it is written. A scalar is given by its characters. -/
inductive Block where
  | scalar (chars : List Char)
  | items (scalars : List (List Char))
  | group (members : List (String × Block))

mutual

/-- The lines of a member of a group, which is indented by some spaces. A scalar that ends in a line
break, whichever it is, ends its line by it. -/
def Block.write (indent : Nat) (name : String) : Block → List Char
  | .scalar chars =>
    List.replicate indent ' ' ++ name.toList ++ [':', ' '] ++ chars ++
      if chars.getLast?.any isBreak then [] else ['\n']
  | .items scalars =>
    List.replicate indent ' ' ++ name.toList ++ [':', '\n'] ++
      scalars.flatMap fun s => List.replicate indent ' ' ++ ['-', ' '] ++ s ++ ['\n']
  | .group members =>
    List.replicate indent ' ' ++ name.toList ++ [':', '\n'] ++ writeMembers (indent + 2) members

/-- The lines of the members of a group. -/
def writeMembers (indent : Nat) : List (String × Block) → List Char
  | [] => []
  | (name, b) :: rest => b.write indent name ++ writeMembers indent rest

end

/-- Whether a text could be taken for something else than a text. -/
def isAmbiguous (s : String) : Bool :=
  let lower := s.map Char.toLower
  match plainMeaning s with
  | .text _ =>
    (boolean? lower).isSome || isNull lower ||
      lower.toList.head?.any (fun c => c.isDigit || c = '-' || c = '.' || c = '+') ||
      ["y", "yes", "n", "no", "on", "off", "nil"].contains lower
  | _ => true

/-- The pairs of neighbouring characters. -/
def neighbours (cs : List Char) : List (Char × Char) := cs.zip cs.tail

/-- Whether some space stands before a line break. -/
def hasSpaceBreak (cs : List Char) : Bool :=
  (neighbours cs).any fun p => p.1 = ' ' && isBreak p.2

/-- Whether some space stands after a line break. -/
def hasBreakSpace (cs : List Char) : Bool :=
  (neighbours cs).any fun p => isBreak p.1 && p.2 = ' '

/-- Whether a text has characters that are always escaped. -/
def hasSpecial (cs : List Char) : Bool := cs.any (!isPrintable ·)

/-- Whether the character at the start of a text is an indicator there. -/
def startsIndicator : List Char → Bool
  | [] => false
  | c :: rest =>
    "#,[]\x7b\x7d&*!|>'\"%@`".toList.contains c ||
      ((c = '?' || c = ':' || c = '-') && (rest.head?.map isGap).getD true)

/-- Whether a colon or a number sign inside a text is an indicator. -/
def hasInnerIndicator : List Char → Bool
  | [] => false
  | [_] => false
  | a :: b :: rest =>
    (b = ':' && (rest.head?.map isGap).getD true) || (b = '#' && isGap a) ||
      hasInnerIndicator (b :: rest)

/-- Whether a text starts like the rule of a document. -/
def startsRule (cs : List Char) : Bool :=
  cs.take 3 == ['-', '-', '-'] || cs.take 3 == ['.', '.', '.']

/-- Whether a text starts or ends with a space or a break. -/
def hasOuterGap (cs : List Char) : Bool :=
  let isOuter (c : Char) : Bool := c = ' ' || isBreak c
  cs.head?.any isOuter || cs.getLast?.any isOuter

/-- Whether single quotes can hold a text. -/
def allowsQuotes (cs : List Char) : Bool :=
  !hasBreakSpace cs && !hasSpaceBreak cs && !hasSpecial cs

/-- Whether a text can stand without quotes. -/
def allowsPlain (cs : List Char) : Bool :=
  allowsQuotes cs && !hasOuterGap cs && !cs.any isBreak && !startsIndicator cs &&
    !hasInnerIndicator cs && !startsRule cs

/-- Whether a literal block can hold a text. -/
def allowsBlock (cs : List Char) : Bool :=
  !cs.isEmpty && cs.getLast? != some ' ' && !hasSpaceBreak cs && !hasSpecial cs

/-- The letter of a short escape. -/
def shortEscape? (c : Char) : Option Char :=
  match c with
  | '\x00' => some '0'
  | '\x07' => some 'a'
  | '\x08' => some 'b'
  | '\t' => some 't'
  | '\n' => some 'n'
  | '\x0b' => some 'v'
  | '\x0c' => some 'f'
  | '\r' => some 'r'
  | '\x1b' => some 'e'
  | '"' => some '"'
  | '\\' => some '\\'
  | '\u0085' => some 'N'
  | '\u00a0' => some '_'
  | '\u2028' => some 'L'
  | '\u2029' => some 'P'
  | _ => none

/-- A number in upper-case hexadecimal digits, padded by zeros. -/
def paddedHex (width n : Nat) : List Char :=
  let digits := (Nat.toDigits 16 n).map Char.toUpper
  List.replicate (width - digits.length) '0' ++ digits

/-- The escape of a character. -/
def escape (c : Char) : List Char :=
  match shortEscape? c with
  | some letter => ['\\', letter]
  | none =>
    let n := c.toNat
    if n ≤ 0xFF then '\\' :: 'x' :: paddedHex 2 n
    else if n ≤ 0xFFFF then '\\' :: 'u' :: paddedHex 4 n
    else '\\' :: 'U' :: paddedHex 8 n

/-- A text between double quotes. -/
def writeDouble (cs : List Char) : List Char :=
  let write (c : Char) : List Char :=
    if !isPrintable c || isBreak c || c = '"' || c = '\\' then escape c else [c]
  '"' :: cs.flatMap write ++ ['"']

/-- The spaces in front of a line inside a scalar. -/
def lineIndent : List Char := [' ', ' ', ' ', ' ']

/-- The characters of a text, in which every line after a break is indented. A quote is written
twice if `quoted`. -/
def writeLines (quoted afterBreak : Bool) : List Char → List Char
  | [] => if quoted && afterBreak then lineIndent else []
  | c :: rest =>
    if isBreak c then c :: writeLines quoted true rest
    else
      let front := if afterBreak then lineIndent else []
      let char := if quoted && c = '\'' then ['\'', '\''] else [c]
      front ++ char ++ writeLines quoted false rest

/-- A text between single quotes. -/
def writeSingle (cs : List Char) : List Char := '\'' :: writeLines true false cs ++ ['\'']

/-- The mark of a literal block that says what becomes of the breaks at its end. -/
def chompMark (cs : List Char) : List Char :=
  match cs.reverse with
  | [] => ['-']
  | last :: before =>
    if !isBreak last then ['-']
    else if (before.head?.map isBreak).getD true then ['+']
    else []

/-- A text as a literal block. -/
def writeLiteral (cs : List Char) : List Char :=
  let indentMark := if cs.head?.any fun c => c = ' ' || isBreak c then ['2'] else []
  '|' :: indentMark ++ chompMark cs ++ '\n' :: writeLines false true cs

/-- A text as a scalar. -/
def writeText (s : String) : List Char :=
  let cs := s.toList
  if cs.contains '\n' then if allowsBlock cs then writeLiteral cs else writeDouble cs
  else if !isAmbiguous s && allowsPlain cs then cs
  else if allowsQuotes cs then writeSingle cs
  else writeDouble cs

end ScatterPick.Yaml
