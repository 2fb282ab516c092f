import ScatterPick.Config.Settings

/-!
# Agreement of settings

Equality as numbers have it, field by field: the two zeros agree, and an undefined number does not
agree with itself.
-/

namespace ScatterPick

/-- Whether two optional numbers are both absent or both present and equal. -/
def optionalAgrees : Option Float32 → Option Float32 → Bool
  | some a, some b => a == b
  | none, none => true
  | _, _ => false

/-- Whether two selection settings agree. -/
def SelectionSettings.agrees (s t : SelectionSettings) : Bool :=
  s.alphaOther == t.alphaOther && optionalAgrees s.expandSelected t.expandSelected &&
    s.clickTolerance == t.clickTolerance && s.additiveKey == t.additiveKey

/-- Whether two settings of the strip agree. -/
def HudSettings.agrees (s t : HudSettings) : Bool :=
  s.gap == t.gap && s.size == t.size && s.color == t.color && s.hoverColor == t.hoverColor &&
    s.titleFontSize == t.titleFontSize

/-- Whether two looks agree. -/
def MarkerLook.agrees (s t : MarkerLook) : Bool := s.color == t.color && s.radius == t.radius

/-- Whether two settings agree. -/
def Settings.agrees (s t : Settings) : Bool :=
  s.selection.agrees t.selection && s.hud.agrees t.hud && s.look.agrees t.look

end ScatterPick
