import ScatterPick.Json.Scalar

/-!
# JSON arrays and objects

How brackets, commas and colons are read. A value that does not fit is reported after the closing
bracket of the array or object around it, so that bracket is looked for even then.
-/

namespace ScatterPick.Json

/-- The first character after the gap at a cursor. -/
def Cursor.peek (c : Cursor) : Option Char := c.rest.head?

/-- Looks for the end of an array. -/
def closeArray (c : Cursor) : Except Failure Unit × Cursor :=
  let c := c.skipGap
  match c.peek with
  | none => (.error (c.fail .endInList), c)
  | some ']' => (.ok (), c.advance)
  | some ',' =>
    let c := c.advance.skipGap
    if c.peek = some ']' then (.error (c.failNext .trailingComma), c)
    else (.error (c.failNext .trailingText), c)
  | some _ => (.error (c.failNext .trailingText), c)

/-- Looks for the end of an object. -/
def closeObject (c : Cursor) : Except Failure Unit × Cursor :=
  let c := c.skipGap
  match c.peek with
  | none => (.error (c.fail .endInObject), c)
  | some '\x7d' => (.ok (), c.advance)
  | some ',' => (.error (c.failNext .trailingComma), c)
  | some _ => (.error (c.failNext .trailingText), c)

/-- Reads an array or object up to its end, where a failure without a place gets one. -/
def enclosed {α : Type} (close : Cursor → Except Failure Unit × Cursor) (body : Reader α) :
    Reader α := fun c =>
  match body c with
  | .ok (a, c) =>
    match close c with
    | (.ok (), c) => .ok (a, c)
    | (.error e, _) => .error e
  | .error e =>
    match e.place with
    | some _ => .error e
    | none =>
      let c := (close e.cursor).2
      .error ⟨e.problem, some c.place, c⟩

/-- Looks for a further element of an array. -/
def nextElement (first : Bool) : Reader Bool := fun c =>
  let c := c.skipGap
  match c.peek with
  | none => .error (c.fail .endInList)
  | some ']' => .ok (false, c)
  | some a =>
    if first then .ok (true, c)
    else if a = ',' then
      let c := c.advance.skipGap
      match c.peek with
      | none => .error (c.fail .endInValue)
      | some ']' => .error (c.failNext .trailingComma)
      | some _ => .ok (true, c)
    else .error (c.failNext .missingCommaInList)

/-- Looks for the name of a further member of an object. -/
def nextName (first : Bool) : Reader (Option String) := fun c => do
  let c := c.skipGap
  match c.peek with
  | none => .error (c.fail .endInObject)
  | some '\x7d' => .ok (none, c)
  | some a =>
    if first then
      if a = '"' then
        let (name, c) ← readText c.advance
        .ok (some name, c)
      else .error (c.failNext .keyNotText)
    else if a = ',' then
      let c := c.advance.skipGap
      match c.peek with
      | none => .error (c.fail .endInValue)
      | some '"' =>
        let (name, c) ← readText c.advance
        .ok (some name, c)
      | some '\x7d' => .error (c.failNext .trailingComma)
      | some _ => .error (c.failNext .keyNotText)
    else .error (c.failNext .missingCommaInObject)

/-- Reads the colon after a name. -/
def readColon (c : Cursor) : Except Failure Cursor :=
  let c := c.skipGap
  if c.peek = some ':' then .ok c.advance else .error (c.failOrEnd .endInObject .missingColon)

/-- Reads the name of a skipped member with its colon. -/
def skipName (c : Cursor) : Except Failure Cursor := do
  let c := c.skipGap
  if c.peek = some '"' then readColon (← skipText c.advance)
  else .error (c.failOrEnd .endInObject .keyNotText)

mutual

/-- Skips a value of any shape. -/
def skipValue : Nat → Cursor → Except Failure Cursor
  | 0, c => .error (c.fail .endInValue)
  | fuel + 1, c =>
    let c := c.skipGap
    match c.peek with
    | none => .error (c.fail .endInValue)
    | some 'n' => readWord ['u', 'l', 'l'] c.advance
    | some 't' => readWord ['r', 'u', 'e'] c.advance
    | some 'f' => readWord ['a', 'l', 's', 'e'] c.advance
    | some '-' => skipUnsigned c.advance
    | some '"' => skipText c.advance
    | some '[' =>
      let c := c.advance.skipGap
      match c.peek with
      | none => .error (c.fail .endInList)
      | some ']' => .ok c.advance
      | some _ => skipItems fuel c
    | some '\x7b' =>
      let c := c.advance.skipGap
      match c.peek with
      | none => .error (c.fail .endInObject)
      | some '\x7d' => .ok c.advance
      | some _ => skipMembers fuel c
    | some a => if a.isDigit then skipUnsigned c else .error (c.failNext .missingValue)

/-- Skips the items of an array with the closing bracket. -/
def skipItems : Nat → Cursor → Except Failure Cursor
  | 0, c => .error (c.fail .endInList)
  | fuel + 1, c => do
    let c := (← skipValue fuel c).skipGap
    match c.peek with
    | none => .error (c.fail .endInList)
    | some ',' => skipItems fuel c.advance
    | some ']' => .ok c.advance
    | some _ => .error (c.failNext .missingCommaInList)

/-- Skips the members of an object with the closing brace. -/
def skipMembers : Nat → Cursor → Except Failure Cursor
  | 0, c => .error (c.fail .endInObject)
  | fuel + 1, c => do
    let c := (← skipValue fuel (← skipName c)).skipGap
    match c.peek with
    | none => .error (c.fail .endInObject)
    | some ',' => skipMembers fuel c.advance
    | some '\x7d' => .ok c.advance
    | some _ => .error (c.failNext .missingCommaInObject)

end

/-- Skips a value; every bracket and every item takes a character, so the fuel suffices. -/
def skipAny (c : Cursor) : Except Failure Cursor := skipValue (2 * c.rest.length + 2) c

/-- A field of a group of settings: its name, and how it is read into a group. -/
structure GroupField (σ : Type) where
  name : String
  read : σ → Reader σ

/-- Reads the elements of an array into the fields of a group in their order. -/
def readElements {σ : Type} (group : σ) (first : Bool) : List (GroupField σ) → Reader σ
  | [], c => .ok (group, c)
  | f :: rest, c => do
    let (more, c) ← nextElement first c
    if more then
      let (group, c) ← f.read group c
      readElements group false rest c
    else readElements group first rest c

/-- Reads the members of an object into the fields of a group. A name without a field is skipped,
and a field occurs at most once. -/
def readMembers {σ : Type} (fields : List (GroupField σ)) (seen : List String) (group : σ)
    (first : Bool) : Nat → Reader σ
  | 0, c => .error (c.fail .endInObject)
  | fuel + 1, c => do
    let (name, c) ← nextName first c
    match name with
    | none => .ok (group, c)
    | some name =>
      match fields.find? (·.name == name) with
      | none =>
        let c ← skipAny (← readColon c)
        readMembers fields seen group false fuel c
      | some f =>
        if seen.contains name then .error (c.mismatchLater (.repeatedField name))
        else
          let (group, c) ← f.read group (← readColon c)
          readMembers fields (name :: seen) group false fuel c

/-- The end of a whole text. -/
def readEnd (c : Cursor) : Except Failure Unit :=
  let c := c.skipGap
  if c.rest.isEmpty then .ok () else .error (c.failNext .trailingText)

end ScatterPick.Json
