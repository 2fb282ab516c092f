import ScatterPick.Yaml.Token.Property
import ScatterPick.Yaml.Token.Scalar

/-!
# Scanning tokens

`scan` turns a whole text into tokens. A node on one line may turn out to be a mapping key only at
the colon after it, so the lexer remembers, per flow collection, the last place where a key could
have started, and puts the tokens of the mapping in there.
-/

namespace ScatterPick.Yaml

/-- A place where a key without an indicator may have started. -/
structure KeyPlace where
  /-- Whether nothing else may stand there. -/
  required : Bool
  /-- The number of tokens before it. -/
  tokens : Nat
  mark : Mark
  deriving Repr

/-- The state between two tokens. -/
structure Lexer where
  cursor : Cursor
  tokens : Array Token
  /-- The indentation of the innermost block collection, or a number below zero. -/
  indent : Int
  /-- The indentations around it, innermost first. -/
  outer : List Int
  /-- The possible key of the innermost collection. -/
  place : Option KeyPlace
  /-- The possible keys around it; there is one per flow collection. -/
  places : List (Option KeyPlace)
  /-- Whether a key may start here. -/
  keyAllowed : Bool

namespace Lexer

/-- The state at the start of a text. -/
def start (text : List Char) : Lexer :=
  { cursor := ⟨text, .start⟩, tokens := #[], indent := -1, outer := [], place := none, places := [],
    keyAllowed := true }

/-- Whether a flow collection is open. -/
def inFlow (l : Lexer) : Bool := !l.places.isEmpty

/-- The current position. -/
def mark (l : Lexer) : Mark := l.cursor.mark

/-- Appends a token. -/
def push (l : Lexer) (lexeme : Lexeme) (mark : Mark) : Lexer :=
  { l with tokens := l.tokens.push ⟨lexeme, mark⟩ }

/-- Puts a token in front of the token number `n`. -/
def insert (l : Lexer) (n : Nat) (lexeme : Lexeme) (mark : Mark) : Lexer :=
  { l with tokens := l.tokens.extract 0 n ++ #[⟨lexeme, mark⟩] ++ l.tokens.extract n l.tokens.size }

/-- Moves on to a cursor. -/
def moveTo (l : Lexer) (cursor : Cursor) : Lexer := { l with cursor }

/-- Closes the block collections that are indented deeper than a column. -/
def closeBlocks (l : Lexer) (column : Int) : Lexer :=
  if l.inFlow then l else go l.outer { l with outer := [] }
where
  /-- Closes blocks one by one; the remaining outer indentations are given apart. -/
  go : List Int → Lexer → Lexer
    | [], l => l
    | i :: rest, l =>
      if column < l.indent then go rest { l.push .blockEnd l.mark with indent := i }
      else { l with outer := i :: rest }

/-- Opens a block collection at a column that is indented deeper, before the token number `n` or
at the end. -/
def openBlock (l : Lexer) (column : Nat) (n : Option Nat) (lexeme : Lexeme) (mark : Mark) : Lexer :=
  if l.inFlow || (column : Int) ≤ l.indent then l
  else
    let l := { l with outer := l.indent :: l.outer, indent := column }
    match n with
    | some n => l.insert n lexeme mark
    | none => l.push lexeme mark

/-- Gives up the possible key of the innermost collection. -/
def dropPlace (l : Lexer) : Option Lexer :=
  match l.place with
  | some p => if p.required then none else some { l with place := none }
  | none => some l

/-- Notes that a key may start here. -/
def notePlace (l : Lexer) : Option Lexer :=
  if l.keyAllowed then do
    let required := !l.inFlow && l.indent = l.mark.column
    let l' ← l.dropPlace
    return { l' with place := some ⟨required, l.tokens.size, l.mark⟩ }
  else some l

/-- A key ends on the line on which it starts, and after at most 1024 characters. -/
def isStale (mark : Mark) (p : KeyPlace) : Bool :=
  p.mark.line < mark.line || p.mark.index + 1024 < mark.index

/-- Gives up the possible keys that lie too far back. -/
def dropStale (l : Lexer) : Option Lexer :=
  let stale (p : Option KeyPlace) : Bool := p.any (isStale l.mark)
  let lost (p : Option KeyPlace) : Bool := p.any fun p => p.required && isStale l.mark p
  if lost l.place || l.places.any lost then none
  else
    let keep (p : Option KeyPlace) : Option KeyPlace := if stale p then none else p
    some { l with place := keep l.place, places := l.places.map keep }

/-- Skips the gap before the next token. A tab belongs to it only where no key may start. -/
def skipGap : Nat → Lexer → Lexer
  | 0, l => l
  | fuel + 1, l =>
    let bom := l.mark.index == 0 && l.cursor.sees '\ufeff'
    let c := if bom then l.cursor.advance else l.cursor
    let tabs := l.inFlow || !l.keyAllowed
    let c := (c.skipWhile fun a => a = ' ' || (tabs && a = '\t')).skipComment
    if c.starts isBreak then
      skipGap fuel { l with cursor := c.skipBreak, keyAllowed := l.keyAllowed || !l.inFlow }
    else { l with cursor := c }

/-- Takes the indicator at the cursor as a token. -/
def takeIndicator (l : Lexer) (width : Nat) (lexeme : Lexeme) : Lexer :=
  (l.push lexeme l.mark).moveTo (l.cursor.skip width)

/-- Ends the text. -/
def finish (l : Lexer) : Option Lexer := do
  let c := l.cursor
  let c : Cursor := if c.mark.column = 0 then c else ⟨[], c.mark.nextLine 0⟩
  let l ← ((l.moveTo c).closeBlocks (-1)).dropPlace
  return ({ l with keyAllowed := false }).push .streamEnd l.mark

/-- Scans a directive. -/
def directive (l : Lexer) : Option Lexer := do
  let l ← (l.closeBlocks (-1)).dropPlace
  let (lexeme, c) ← scanDirective l.cursor
  return ({ l with keyAllowed := false }.push lexeme l.mark).moveTo c

/-- Scans the rule that starts or ends a document. -/
def documentRule (l : Lexer) (lexeme : Lexeme) : Option Lexer := do
  let l ← (l.closeBlocks (-1)).dropPlace
  return ({ l with keyAllowed := false }).takeIndicator 3 lexeme

/-- Opens a flow collection. -/
def openFlow (l : Lexer) (lexeme : Lexeme) : Option Lexer := do
  let l ← l.notePlace
  return { l with places := l.place :: l.places, place := none, keyAllowed := true }.takeIndicator 1
    lexeme

/-- Closes a flow collection. -/
def closeFlow (l : Lexer) (lexeme : Lexeme) : Option Lexer := do
  let l ← l.dropPlace
  let l := match l.places with
    | p :: rest => { l with place := p, places := rest }
    | [] => l
  return ({ l with keyAllowed := false }).takeIndicator 1 lexeme

/-- Scans a comma of a flow collection. -/
def comma (l : Lexer) : Option Lexer := do
  let l ← l.dropPlace
  return ({ l with keyAllowed := true }).takeIndicator 1 .comma

/-- Opens a block collection at an indicator, where one may start. -/
def openAt (l : Lexer) (lexeme : Lexeme) : Option Lexer :=
  if l.inFlow then some l
  else if l.keyAllowed then some (l.openBlock l.mark.column none lexeme l.mark)
  else none

/-- Scans the dash before an entry of a block sequence. -/
def entry (l : Lexer) : Option Lexer := do
  let l ← (← l.openAt .blockSequence).dropPlace
  return ({ l with keyAllowed := true }).takeIndicator 1 .entry

/-- Scans the question mark before a key. -/
def key (l : Lexer) : Option Lexer := do
  let l ← (← l.openAt .blockMapping).dropPlace
  return ({ l with keyAllowed := !l.inFlow }).takeIndicator 1 .key

/-- Scans the colon before a value. If a key may have started on this line, it did. -/
def value (l : Lexer) : Option Lexer :=
  match l.place with
  | some p =>
    let l := l.insert p.tokens .key p.mark
    let l := l.openBlock p.mark.column (some p.tokens) .blockMapping p.mark
    some (({ l with place := none, keyAllowed := false }).takeIndicator 1 .value)
  | none => do
    let l ← l.openAt .blockMapping
    return ({ l with keyAllowed := !l.inFlow }).takeIndicator 1 .value

/-- Scans something that belongs to a node, which may be a key. -/
def property (l : Lexer) (scan : Cursor → Option (Lexeme × Cursor)) : Option Lexer := do
  let l ← l.notePlace
  let (lexeme, c) ← scan l.cursor
  return ({ l with keyAllowed := false }.push lexeme l.mark).moveTo c

/-- Scans a quoted scalar. -/
def quoted (l : Lexer) (single : Bool) : Option Lexer :=
  l.property fun c => do
    let s ← scanQuoted single [] (c.rest.length + 1) c.advance
    let style := if single then ScalarStyle.singleQuoted else .doubleQuoted
    return (.scalar style (String.ofList s.text), s.cursor)

/-- Scans a block scalar. -/
def block (l : Lexer) (literal : Bool) : Option Lexer := do
  let l ← l.dropPlace
  let s ← scanBlock literal l.indent (l.cursor.rest.length + 1) l.cursor.advance
  let style := if literal then ScalarStyle.literal else .folded
  return ({ l with keyAllowed := true }.push (.scalar style (String.ofList s.text)) l.mark).moveTo
    s.cursor

/-- Scans a plain scalar. -/
def plain (l : Lexer) : Option Lexer := do
  let l ← l.notePlace
  let s ← scanPlain l.inFlow (l.indent + 1) [] {} (l.cursor.rest.length + 1) l.cursor
  let read := { l with keyAllowed := s.broken }
  return (read.push (.scalar .plain (String.ofList s.text)) l.mark).moveTo s.cursor

/-- Scans the token that starts with a character. -/
def token (l : Lexer) (a : Char) : Option Lexer :=
  let c := l.cursor
  if c.mark.column = 0 && a = '%' then l.directive
  else if c.atRule '-' then l.documentRule .documentStart
  else if c.atRule '.' then l.documentRule .documentEnd
  else if a = '[' then l.openFlow .flowSequence
  else if a = '\x7b' then l.openFlow .flowMapping
  else if a = ']' then l.closeFlow .flowSequenceEnd
  else if a = '\x7d' then l.closeFlow .flowMappingEnd
  else if a = ',' then l.comma
  else if a = '-' && c.gapAt 1 then l.entry
  else if a = '?' && (l.inFlow || c.gapAt 1) then l.key
  else if a = ':' && (l.inFlow || c.gapAt 1) then l.value
  else if a = '*' then l.property fun c => (scanName c).map fun (n, c) => (.alias n, c)
  else if a = '&' then l.property fun c => (scanName c).map fun (n, c) => (.anchor n, c)
  else if a = '!' then l.property (scanTag l.inFlow)
  else if a = '|' && !l.inFlow then l.block true
  else if a = '>' && !l.inFlow then l.block false
  else if a = '\'' then l.quoted true
  else if a = '"' then l.quoted false
  else if !(isGap a || isIndicator a) || (a = '-' && !c.rest[1]?.any isBlank) ||
      (!l.inFlow && (a = '?' || a = ':') && !c.gapAt 1) then l.plain
  else none

/-- Scans tokens up to the end of the text; every token takes a character. -/
def run : Nat → Lexer → Option (Array Token)
  | 0, _ => none
  | fuel + 1, l => do
    let l ← (l.skipGap (l.cursor.rest.length + 1)).dropStale
    let l := l.closeBlocks l.mark.column
    match l.cursor.peek with
    | none => return (← l.finish).tokens
    | some a => run fuel (← l.token a)

end Lexer

/-- The tokens of a text. -/
def scan (text : List Char) : Option (Array Token) :=
  if text.all isAllowed then (Lexer.start text).run (text.length + 1) else none

end ScatterPick.Yaml
