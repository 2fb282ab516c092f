import ScatterPick.Json.Basic
import ScatterPick.Json.Typed

/-!
# Settings in JSON

The written form of settings as a JSON object, and the reading of it. Both list the fields of a
group in the same order; reading takes them in any order and fills in defaults.
-/

namespace ScatterPick

open Json Number

/-- A key as a JSON value. -/
def Key.toJson : Key → Json
  | shift => .text "Shift"
  | ctrl => .text "Ctrl"
  | alt => .text "Alt"
  | other name => .object [("Other", .text name)]

/-- A single as a JSON value. -/
def jsonSingle (x : Float32) : Json := .number (Style.jsonSingle.single x)

/-- A colour as a JSON value. -/
def Color.toJson (c : Color) : Json :=
  .array ([c.red, c.green, c.blue].map fun n => .number (toString n.toNat))

/-- Selection settings as a JSON value. -/
def SelectionSettings.toJson (s : SelectionSettings) : Json :=
  .object [("alpha_other", jsonSingle s.alphaOther),
    ("expand_selected", (s.expandSelected.map jsonSingle).getD .null),
    ("click_tolerance", .number (Style.jsonDouble.double s.clickTolerance)),
    ("additive_key", s.additiveKey.toJson)]

/-- The settings of the strip as a JSON value. -/
def HudSettings.toJson (h : HudSettings) : Json :=
  .object [("gap", jsonSingle h.gap), ("size", jsonSingle h.size), ("color", h.color.toJson),
    ("hover_color", h.hoverColor.toJson), ("title_font_size", jsonSingle h.titleFontSize)]

/-- The look of points as a JSON value. -/
def MarkerLook.toJson (l : MarkerLook) : Json :=
  .object [("color", l.color.toJson), ("radius", jsonSingle l.radius)]

/-- Settings as a JSON value. -/
def Settings.toJson (s : Settings) : Json :=
  .object [("selection", s.selection.toJson), ("hud", s.hud.toJson), ("look", s.look.toJson)]

/-- A field whose value has a reader of its own. -/
def jsonField {σ α : Type} (name : String) (read : Reader α) (put : σ → α → σ) : GroupField σ :=
  ⟨name, fun s c => (read c).map fun (a, c) => (put s a, c)⟩

/-- The fields of the selection settings. -/
def SelectionSettings.jsonFields : List (GroupField SelectionSettings) :=
  [jsonField "alpha_other" readSingle fun s a => { s with alphaOther := a },
    jsonField "expand_selected" readOptional fun s a => { s with expandSelected := a },
    jsonField "click_tolerance" readDouble fun s a => { s with clickTolerance := a },
    jsonField "additive_key" readKey fun s a => { s with additiveKey := a }]

/-- The fields of the settings of the strip. -/
def HudSettings.jsonFields : List (GroupField HudSettings) :=
  [jsonField "gap" readSingle fun s a => { s with gap := a },
    jsonField "size" readSingle fun s a => { s with size := a },
    jsonField "color" readColor fun s a => { s with color := a },
    jsonField "hover_color" readColor fun s a => { s with hoverColor := a },
    jsonField "title_font_size" readSingle fun s a => { s with titleFontSize := a }]

/-- The fields of the look of points. -/
def MarkerLook.jsonFields : List (GroupField MarkerLook) :=
  [jsonField "color" readColor fun s a => { s with color := a },
    jsonField "radius" readSingle fun s a => { s with radius := a }]

/-- The groups of the settings. -/
def Settings.jsonFields : List (GroupField Settings) :=
  [jsonField "selection" (readGroup "SelectionConfig" SelectionSettings.jsonFields {})
      fun s a => { s with selection := a },
    jsonField "hud" (readGroup "HudConfig" HudSettings.jsonFields {})
      fun s a => { s with hud := a },
    jsonField "look" (readGroup "PointLook" MarkerLook.jsonFields {})
      fun s a => { s with look := a }]

/-- The message about a JSON text that cannot be read. -/
def Json.Failure.message (e : Failure) : String :=
  let place := e.place.getD e.cursor.place
  e.problem.message ++ " at line " ++ toString place.line ++ " column " ++ toString place.column

/-- Reads settings from a JSON text. -/
def Settings.readJson (text : String) : Except Failure Settings := do
  let (s, c) ← readGroup "PersistedConfig" Settings.jsonFields {} (.ofText text)
  readEnd c
  return s

end ScatterPick
