import ScatterPick.Color
import ScatterPick.Event.Key
import ScatterPick.Style.Marker

/-!
# Settings

How gestures are read, how the heads-up strip is laid out and how points look. These are the
settings that a file holds.
-/

namespace ScatterPick

/-- How gestures are read and how the selection is drawn. -/
structure SelectionSettings where
  /-- Opacity of the points outside a selection that has members. -/
  alphaOther : Float32 := 0.25
  /-- Size factor of selected points; nothing leaves sizes alone. -/
  expandSelected : Option Float32 := some 3.0
  /-- Click distance as a fraction of the smaller visible extent. -/
  clickTolerance : Float := 0.02
  /-- The key that switches gestures into additive mode. -/
  additiveKey : Key := .shift
  deriving DecidableEq

/-- Placement and colours of the heads-up strip. -/
structure HudSettings where
  /-- Gap between buttons and above the frame, as a fraction of the frame. -/
  gap : Float32 := 0.02
  /-- Edge of a button, as a fraction of the frame. -/
  size : Float32 := 0.06
  /-- Fill of a button at rest. -/
  color : Color := ⟨0xDB, 0xEB, 0xFC⟩
  /-- Fill of a hovered button. -/
  hoverColor : Color := ⟨0x49, 0x9C, 0xEF⟩
  titleFontSize : Float32 := 14.0
  deriving DecidableEq

/-- The look of points before any selection. -/
structure MarkerLook where
  color : Color := ⟨0x1F, 0x77, 0xB4⟩
  /-- Marker radius in pixels. -/
  radius : Float32 := 3.0
  deriving DecidableEq

/-- The settings that a file holds. -/
structure Settings where
  selection : SelectionSettings := {}
  hud : HudSettings := {}
  look : MarkerLook := {}
  deriving DecidableEq

/-- What a selection is drawn with. -/
def SelectionSettings.emphasis (s : SelectionSettings) : Emphasis :=
  ⟨.ofSingle s.alphaOther, s.expandSelected⟩

/-- The window around the settings. -/
structure WindowConfig where
  title : String := "lassoplot"
  settings : Settings := {}

namespace WindowConfig

/-- Takes over the settings of a file and nothing else. -/
def apply (w : WindowConfig) (settings : Settings) : WindowConfig := { w with settings }

end WindowConfig

end ScatterPick
