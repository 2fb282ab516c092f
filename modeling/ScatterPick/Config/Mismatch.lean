import ScatterPick.Number.Notation
import ScatterPick.Text.Quoted

/-!
# Mismatches

Why a well-formed value is not of the shape that a setting asks for. The wording is the same for
both file formats, the name of the null value apart.
-/

namespace ScatterPick

/-- What a file holds at some place. -/
inductive Found where
  /-- The null value, by the name that the format has for it. -/
  | null (name : String)
  | boolean (value : Bool)
  | integer (value : Int)
  /-- An integer out of the range of 64 bits. -/
  | wideInteger (value : Int)
  /-- A number with a fraction or an exponent, as a message writes it. -/
  | fraction (text : String)
  | text (value : String)
  | sequence
  | mapping
  /-- The name of a choice without a value. -/
  | choice
  deriving DecidableEq, Repr

/-- What a setting asks for. -/
inductive Wanted where
  | single
  | double
  | byte
  | text
  | null
  /-- The value of a choice that has none. -/
  | unit
  /-- A colour, which is an array of three numbers. -/
  | color
  /-- The number of elements of a colour. -/
  | threeElements
  | fieldName
  /-- The name of a choice. -/
  | choiceName
  /-- A choice with a value. -/
  | choiceWithValue
  | tag
  /-- A group of settings, by its name. -/
  | group (name : String)
  deriving DecidableEq, Repr

/-- Why a value does not fit. -/
inductive Mismatch where
  | kind (found : Found) (wanted : Wanted)
  | value (found : Found) (wanted : Wanted)
  | length (count : Nat) (wanted : Wanted)
  | unknownKey (name : String)
  | repeatedField (name : String)
  deriving DecidableEq, Repr

/-- A text between backticks. -/
def ticked (text : String) : String := "`" ++ text ++ "`"

/-- The wording of what was found. -/
def Found.message : Found → String
  | null name => name
  | boolean value => "boolean " ++ ticked (if value then "true" else "false")
  | integer value => "integer " ++ ticked (toString value)
  | wideInteger value =>
    "integer " ++ ticked (toString value) ++ if value < 0 then " as i128" else " as u128"
  | fraction written => "floating point " ++ ticked written
  | text value => "string " ++ Text.quoted value
  | sequence => "sequence"
  | mapping => "map"
  | choice => "unit variant"

/-- The wording of what was asked for. -/
def Wanted.message : Wanted → String
  | single => "f32"
  | double => "f64"
  | byte => "u8"
  | text => "a string"
  | null => "null"
  | unit => "unit"
  | color => "an array of length 3"
  | threeElements => "sequence of 3 elements"
  | fieldName => "field identifier"
  | choiceName => "variant identifier"
  | choiceWithValue => "newtype variant"
  | tag => "a YAML tag starting with '!'"
  | group name => "struct " ++ name

/-- The wording of a mismatch. -/
def Mismatch.message : Mismatch → String
  | kind found wanted => "invalid type: " ++ found.message ++ ", expected " ++ wanted.message
  | value found wanted => "invalid value: " ++ found.message ++ ", expected " ++ wanted.message
  | length count wanted => "invalid length " ++ toString count ++ ", expected " ++ wanted.message
  | unknownKey name =>
    "unknown variant " ++ ticked name ++ ", expected one of `Shift`, `Ctrl`, `Alt`, `Other`"
  | repeatedField name => "duplicate field " ++ ticked name

end ScatterPick
