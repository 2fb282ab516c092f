import ScatterPick.Config.Settings
import ScatterPick.Log

/-!
# Sanitized settings

Values out of their domain are replaced, each with one warning. A field is valid if a comparison
says so, hence an undefined number never is.
-/

namespace ScatterPick

/-- Whether an opacity lies between zero and one. -/
def validAlpha (a : Float32) : Bool := 0.0 ≤ a && a ≤ 1.0

/-- Whether a click tolerance is an ordinary number and not negative. -/
def validTolerance (t : Float) : Bool := 0.0 ≤ t && t.isFinite

/-- Whether a size factor is an ordinary number above zero. -/
def validFactor (f : Float32) : Bool := 0.0 < f && f.isFinite

/-- The opacity nearest to one out of range; an undefined one becomes the default. -/
def clampAlpha (a : Float32) : Float32 :=
  if a.isNaN then 0.25 else if a < 0.0 then 0.0 else if 1.0 < a then 1.0 else a

namespace SelectionSettings

/-- The settings with every field in its domain. -/
def sanitized (s : SelectionSettings) : SelectionSettings :=
  { s with
    alphaOther := if validAlpha s.alphaOther then s.alphaOther else clampAlpha s.alphaOther
    clickTolerance := if validTolerance s.clickTolerance then s.clickTolerance else 0.0
    expandSelected := s.expandSelected.filter validFactor }

/-- One warning for each field that `sanitized` replaces. -/
def warnings (s : SelectionSettings) : List LogEntry :=
  (if validAlpha s.alphaOther then []
    else [.alphaClamped s.alphaOther (clampAlpha s.alphaOther)]) ++
  (if validTolerance s.clickTolerance then [] else [.toleranceReset s.clickTolerance]) ++
  match s.expandSelected with
  | some f => if validFactor f then [] else [.expansionDisabled f]
  | none => []

end SelectionSettings

end ScatterPick
