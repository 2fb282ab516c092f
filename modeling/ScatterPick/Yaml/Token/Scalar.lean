import ScatterPick.Text.Hexadecimal
import ScatterPick.Yaml.Token

/-!
# Scanning scalars

The five ways to write a scalar. Line breaks inside are folded: one becomes a space, of several the
first disappears. Only a literal block keeps all of them.
-/

namespace ScatterPick.Yaml

/-- The gap between two words of a scalar. -/
structure Gap where
  /-- Spaces and tabs before any break. -/
  blanks : List Char := []
  /-- The first break. -/
  first : List Char := []
  /-- The breaks after the first. -/
  more : List Char := []
  /-- Whether a break has been seen. -/
  broken : Bool := false

/-- The text that a gap stands for. -/
def Gap.fold (g : Gap) : List Char :=
  if g.broken then
    if g.first = ['\n'] then if g.more.isEmpty then [' '] else g.more
    else g.first ++ g.more
  else g.blanks

/-- Scans a gap. In a broken one, `allowed` says where a tab may stand. -/
def scanGap (allowed : Mark → Bool) (g : Gap) : Nat → Cursor → Option (Gap × Cursor)
  | 0, _ => none
  | fuel + 1, c =>
    match c.peek with
    | none => some (g, c)
    | some a =>
      if isBlank a then
        if g.broken then
          if a = '\t' && !allowed c.mark then none else scanGap allowed g fuel c.advance
        else scanGap allowed { g with blanks := g.blanks ++ [a] } fuel c.advance
      else if isBreak a then
        let (text, c) := c.takeBreak
        if g.broken then scanGap allowed { g with more := g.more ++ text } fuel c
        else scanGap allowed { g with first := text, broken := true } fuel c
      else some (g, c)

/-- A scanned scalar. -/
structure Scanned where
  text : List Char
  cursor : Cursor
  /-- Whether a line break came last. -/
  broken : Bool := false

/-- The word of a plain scalar at the cursor. In a flow collection a colon is no end before an
indicator, but an error. -/
def scanWord (inFlow : Bool) : Nat → Cursor → Option (List Char × Cursor)
  | 0, _ => none
  | fuel + 1, c =>
    match c.peek with
    | none => some ([], c)
    | some a =>
      if isGap a then some ([], c)
      else if inFlow && a = ':' && (c.rest[1]?.any fun b => isFlowIndicator b || b = '?') then none
      else if (a = ':' && c.gapAt 1) || (inFlow && isFlowIndicator a) then some ([], c)
      else (scanWord inFlow fuel c.advance).map fun (word, c) => (a :: word, c)

/-- Scans a plain scalar that is indented by at least `indent`. -/
def scanPlain (inFlow : Bool) (indent : Int) (text : List Char) (gap : Gap) :
    Nat → Cursor → Option Scanned
  | 0, _ => none
  | fuel + 1, c => do
    if c.atDocumentRule || c.sees '#' then return ⟨text, c, gap.broken⟩
    let (word, c) ← scanWord inFlow (fuel + 1) c
    if word.isEmpty then return ⟨text, c, gap.broken⟩
    let text := text ++ gap.fold ++ word
    if !c.starts isGap then return ⟨text, c, false⟩
    let (gap, c) ← scanGap (fun m => indent ≤ m.column) {} (fuel + 1) c
    if !inFlow && (c.mark.column : Int) < indent then return ⟨text, c, gap.broken⟩
    scanPlain inFlow indent text gap fuel c

/-- The value of exactly `width` hexadecimal digits in front. -/
def hexFront? (width : Nat) (cs : List Char) : Option Nat :=
  if width ≤ cs.length then Text.hexValue? (cs.take width) else none

/-- The characters of the escapes of one letter. -/
def letterEscapes : List (Char × Char) :=
  [('0', '\x00'), ('a', '\x07'), ('b', '\x08'), ('t', '\t'), ('\t', '\t'), ('n', '\n'),
    ('v', '\x0b'), ('f', '\x0c'), ('r', '\r'), ('e', '\x1b'), (' ', ' '), ('"', '"'), ('/', '/'),
    ('\\', '\\'), ('N', '\u0085'), ('_', '\u00a0'), ('L', '\u2028'), ('P', '\u2029')]

/-- The number of digits after a letter that starts a numeric escape. -/
def numericWidth? : Char → Option Nat
  | 'x' => some 2
  | 'u' => some 4
  | 'U' => some 8
  | _ => none

/-- Whether a number stands for a character. -/
def isCharacter (n : Nat) : Bool := !(0xD800 ≤ n && n ≤ 0xDFFF) && n ≤ 0x10FFFF

/-- Scans what follows a backslash. -/
def scanEscape (c : Cursor) : Option (Char × Cursor) := do
  let a ← c.peek
  match numericWidth? a with
  | some width =>
    let n ← hexFront? width c.rest.tail
    if isCharacter n then return (Char.ofNat n, c.skip (width + 1)) else none
  | none =>
    let (_, b) ← letterEscapes.find? (·.1 == a)
    return (b, c.advance)

/-- Scans the characters of a quoted scalar up to a gap, an escaped break or the closing quote. -/
def scanQuotedWord (single : Bool) (text : List Char) :
    Nat → Cursor → Option (List Char × Bool × Cursor)
  | 0, _ => none
  | fuel + 1, c =>
    match c.rest with
    | [] => some (text.reverse, false, c)
    | a :: rest =>
      if isGap a then some (text.reverse, false, c)
      else if single && a = '\'' then
        if rest.head? = some '\'' then scanQuotedWord single ('\'' :: text) fuel (c.skip 2)
        else some (text.reverse, false, c)
      else if !single && a = '"' then some (text.reverse, false, c)
      else if !single && a = '\\' then
        if rest.head?.any isBreak then some (text.reverse, true, c.advance.skipBreak)
        else
          match scanEscape c.advance with
          | none => none
          | some (b, c) => scanQuotedWord single (b :: text) fuel c
      else scanQuotedWord single (a :: text) fuel c.advance

/-- Scans a quoted scalar after its opening quote. -/
def scanQuoted (single : Bool) (text : List Char) : Nat → Cursor → Option Scanned
  | 0, _ => none
  | fuel + 1, c => do
    if c.atDocumentRule then none
    if c.rest.isEmpty then none
    let (word, broken, c) ← scanQuotedWord single [] (fuel + 1) c
    let text := text ++ word
    if c.sees (if single then '\'' else '"') then return ⟨text, c.advance, false⟩
    let (gap, c) ← scanGap (fun _ => true) { broken } (fuel + 1) c
    scanQuoted single (text ++ gap.fold) fuel c

/-- What becomes of the line breaks at the end of a block scalar. -/
inductive Chomp where
  | strip
  | clip
  | keep
  deriving DecidableEq, Repr

/-- The header of a block scalar. -/
structure BlockHeader where
  chomp : Chomp := .clip
  /-- The indentation, counted from that of the surroundings, if it is given. -/
  indent : Option Nat := none

/-- Scans an optional mark for chomping. -/
def scanChomp (c : Cursor) : Option Chomp × Cursor :=
  if c.sees '+' then (some .keep, c.advance)
  else if c.sees '-' then (some .strip, c.advance)
  else (none, c)

/-- Scans an optional digit for indentation, which is not zero. -/
def scanIndent (c : Cursor) : Option (Option Nat × Cursor) :=
  match c.peek with
  | some d =>
    if d.isDigit then
      if d = '0' then none else some (some (d.toNat - '0'.toNat), c.advance)
    else some (none, c)
  | none => some (none, c)

/-- Scans the header of a block scalar after its indicator, with the rest of the line. -/
def scanHeader (c : Cursor) : Option (BlockHeader × Cursor) := do
  match scanChomp c with
  | (some chomp, c) =>
    let (indent, c) ← scanIndent c
    return (⟨chomp, indent⟩, ← c.finishLine?)
  | (none, c) =>
    let (indent, c) ← scanIndent c
    let (chomp, c) := if indent.isSome then scanChomp c else (none, c)
    return (⟨chomp.getD .clip, indent⟩, ← c.finishLine?)

/-- Scans the breaks and the indentation before a line of a block scalar. An indentation of zero
is not known yet; then the deepest one counts. -/
def scanBlockBreaks (indent deepest : Nat) (breaks : List Char) :
    Nat → Cursor → Option (List Char × Nat × Cursor)
  | 0, _ => none
  | fuel + 1, c =>
    let room := if indent = 0 then c.rest.length else indent - c.mark.column
    let c := c.skip ((c.rest.take room).takeWhile (· = ' ')).length
    let deepest := max deepest c.mark.column
    if (indent = 0 || c.mark.column < indent) && c.sees '\t' then none
    else if c.starts isBreak then
      let (text, c) := c.takeBreak
      scanBlockBreaks indent deepest (breaks ++ text) fuel c
    else some (breaks, deepest, c)

/-- Scans the lines of a block scalar. `first` is the break before the next line, `more` the
breaks after that, and `blank` says whether the last line started with a blank. -/
def scanBlockLines (literal : Bool) (indent : Nat) (chomp : Chomp) (text first more : List Char)
    (blank : Bool) : Nat → Cursor → Option Scanned
  | 0, _ => none
  | fuel + 1, c =>
    if c.mark.column = indent && !c.rest.isEmpty then
      let startsBlank := c.starts isBlank
      let joined :=
        if !literal && first = ['\n'] && !blank && !startsBlank then
          if more.isEmpty then [' '] else []
        else first
      let (line, c) := c.span (!isBreak ·)
      let (first, c) := c.takeBreak
      match scanBlockBreaks indent 0 [] (fuel + 1) c with
      | none => none
      | some (breaks, _, c) =>
        scanBlockLines literal indent chomp (text ++ joined ++ more ++ line) first breaks
          startsBlank fuel c
    else
      let tail := match chomp with
        | .strip => []
        | .clip => first
        | .keep => first ++ more
      some ⟨text ++ tail, c, false⟩

/-- Scans a block scalar after its indicator, inside a collection indented by `outer`. -/
def scanBlock (literal : Bool) (outer : Int) (fuel : Nat) (c : Cursor) : Option Scanned := do
  let (header, c) ← scanHeader c
  let given := match header.indent with
    | some n => if 0 ≤ outer then outer.toNat + n else n
    | none => 0
  let (breaks, deepest, c) ← scanBlockBreaks given 0 [] fuel c
  let indent := if given = 0 then max deepest (max (outer + 1).toNat 1) else given
  scanBlockLines literal indent header.chomp [] [] breaks false fuel c

end ScatterPick.Yaml
