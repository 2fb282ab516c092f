import ScatterPick.Yaml.Cursor

/-!
# YAML tokens

The words of a YAML text. Indentation has become tokens: a block collection has a start and an end.
-/

namespace ScatterPick.Yaml

/-- How a scalar is written. -/
inductive ScalarStyle where
  | plain
  | singleQuoted
  | doubleQuoted
  | literal
  | folded
  deriving DecidableEq, Repr

/-- What a token is. -/
inductive Lexeme where
  | version (major minor : Nat)
  | tagHandle (handle start : String)
  | documentStart
  | documentEnd
  | blockSequence
  | blockMapping
  | blockEnd
  | flowSequence
  | flowSequenceEnd
  | flowMapping
  | flowMappingEnd
  | entry
  | comma
  | key
  | value
  | alias (name : String)
  | anchor (name : String)
  | tag (handle suffix : String)
  | scalar (style : ScalarStyle) (text : String)
  | streamEnd
  deriving DecidableEq, Repr

/-- A token with its position. -/
structure Token where
  lexeme : Lexeme
  mark : Mark
  deriving DecidableEq, Repr

end ScatterPick.Yaml
