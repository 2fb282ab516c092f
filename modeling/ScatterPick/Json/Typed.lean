import ScatterPick.Config.Settings
import ScatterPick.Json.Structure

/-!
# Typed JSON values

Readers of values of a known shape. Anything else is a mismatch, which quotes a scalar in full and
is reported after it.
-/

namespace ScatterPick.Json

open Number

/-- What a numeral is called in a message. -/
def Numeral.found : Numeral → Found
  | .integer value => .integer value
  | .fraction value => .fraction (Style.jsonDouble.double value)

/-- The failure for the value at a cursor, which is none of the wanted kind. -/
def unexpected (wanted : Wanted) (c : Cursor) : Failure :=
  let after (found : Found) (c : Cursor) : Failure := c.mismatch (.kind found wanted)
  let word (word : List Char) (found : Found) : Failure :=
    match readWord word c.advance with
    | .ok c => after found c
    | .error e => e
  let numeral (negative : Bool) (c : Cursor) : Failure :=
    match readUnsigned negative c with
    | .ok (n, c) => after n.found c
    | .error e => e
  match c.peek with
  | some 'n' => word ['u', 'l', 'l'] (.null "null")
  | some 't' => word ['r', 'u', 'e'] (.boolean true)
  | some 'f' => word ['a', 'l', 's', 'e'] (.boolean false)
  | some '-' => numeral true c.advance
  | some '"' =>
    match readText c.advance with
    | .ok (s, c) => after (.text s) c
    | .error e => e
  | some '[' => after .sequence c
  | some '\x7b' => after .mapping c
  | some a => if a.isDigit then numeral false c else c.failNext .missingValue
  | none => c.fail .missingValue

/-- Reads a number and what is wanted of it. -/
def readNumber {α : Type} (wanted : Wanted) (take : Numeral → Except Mismatch α) : Reader α :=
  fun c =>
    let c := c.skipGap
    let finish (negative : Bool) (c : Cursor) : Except Failure (α × Cursor) := do
      let (n, c) ← readUnsigned negative c
      match take n with
      | .ok a => .ok (a, c)
      | .error cause => .error (c.mismatch cause)
    match c.peek with
    | none => .error (c.fail .endInValue)
    | some '-' => finish true c.advance
    | some a => if a.isDigit then finish false c else .error (unexpected wanted c)

/-- Reads a double. -/
def readDouble : Reader Float :=
  readNumber .double fun
    | .integer value => .ok ((⟨value.natAbs, 0⟩ : Decimal).toDouble (value < 0))
    | .fraction value => .ok value

/-- Reads a single. An integer is rounded once, a fraction by way of a double. -/
def readSingle : Reader Float32 :=
  readNumber .single fun
    | .integer value => .ok (((⟨value.natAbs, 0⟩ : Decimal).toBinary single (value < 0)).toSingle)
    | .fraction value => .ok (narrow value)

/-- Reads an integer from 0 to 255. -/
def readByte : Reader UInt8 :=
  readNumber .byte fun
    | .integer value =>
      if 0 ≤ value && value < 256 then .ok (UInt8.ofNat value.toNat)
      else .error (.value (.integer value) .byte)
    | n => .error (.kind n.found .byte)

/-- Reads a single or null. -/
def readOptional : Reader (Option Float32) := fun c => do
  let c := c.skipGap
  if c.peek = some 'n' then
    let c ← readWord ['u', 'l', 'l'] c.advance
    .ok (none, c)
  else
    let (x, c) ← readSingle c
    .ok (some x, c)

/-- Reads a string. -/
def readString (wanted : Wanted) : Reader String := fun c =>
  let c := c.skipGap
  match c.peek with
  | none => .error (c.fail .endInValue)
  | some '"' => readText c.advance
  | some _ => .error (unexpected wanted c)

/-- Reads null. -/
def readNull : Reader Unit := fun c => do
  let c := c.skipGap
  match c.peek with
  | none => .error (c.fail .endInValue)
  | some 'n' =>
    let c ← readWord ['u', 'l', 'l'] c.advance
    .ok ((), c)
  | some _ => .error (unexpected .unit c)

/-- Reads up to a number of elements of an array. -/
def readUpTo {α : Type} (read : Reader α) (first : Bool) : Nat → Reader (List α)
  | 0, c => .ok ([], c)
  | n + 1, c => do
    let (more, c) ← nextElement first c
    if more then
      let (a, c) ← read c
      let (rest, c) ← readUpTo read false n c
      .ok (a :: rest, c)
    else .ok ([], c)

/-- Reads an array of three numbers from 0 to 255. -/
def readColor : Reader Color := fun c =>
  let c := c.skipGap
  match c.peek with
  | none => .error (c.fail .endInValue)
  | some '[' =>
    let body : Reader Color := fun c => do
      let (bytes, c) ← readUpTo readByte true 3 c
      match bytes with
      | [red, green, blue] => .ok (⟨red, green, blue⟩, c)
      | _ => .error (c.mismatchLater (.length bytes.length .color))
    enclosed closeArray body c.advance
  | some _ => .error (unexpected .color c)

/-- Reads the name of a key. -/
def readKeyName : Reader String := readString .choiceName

/-- Reads a key that stands alone or, with a value, in an object of one member. -/
def readKey : Reader Key := fun c => do
  let c := c.skipGap
  match c.peek with
  | none => .error (c.fail .endInValue)
  | some '"' =>
    let (name, c) ← readKeyName c
    match name with
    | "Shift" => .ok (.shift, c)
    | "Ctrl" => .ok (.ctrl, c)
    | "Alt" => .ok (.alt, c)
    | "Other" => .error (c.mismatchLater (.kind .choice .choiceWithValue))
    | _ => .error (c.mismatch (.unknownKey name))
  | some '\x7b' =>
    let (name, c) ← readKeyName c.advance
    let plain (key : Key) : Except Failure (Key × Cursor) := do
      let ((), c) ← readNull (← readColon c)
      .ok (key, c)
    let (key, c) ← match name with
      | "Shift" => plain .shift
      | "Ctrl" => plain .ctrl
      | "Alt" => plain .alt
      | "Other" => do
        let (name, c) ← readString .text (← readColon c)
        .ok (Key.other name, c)
      | _ => .error (c.mismatch (.unknownKey name))
    let c := c.skipGap
    match c.peek with
    | none => .error (c.fail .endInObject)
    | some '\x7d' => .ok (key, c.advance)
    | some _ => .error (c.fail .missingValue)
  | some _ => .error (c.failNext .missingValue)

/-- Reads a group of settings, either from an object or from an array in the order of the
fields. A field that is left out keeps its value in `default`. -/
def readGroup {σ : Type} (name : String) (fields : List (GroupField σ)) (default : σ) : Reader σ :=
  fun c =>
    let c := c.skipGap
    match c.peek with
    | none => .error (c.fail .endInValue)
    | some '[' => enclosed closeArray (readElements default true fields) c.advance
    | some '\x7b' =>
      let body : Reader σ := fun c => readMembers fields [] default true (c.rest.length + 1) c
      enclosed closeObject body c.advance
    | some _ => .error (unexpected (.group name) c)

end ScatterPick.Json
