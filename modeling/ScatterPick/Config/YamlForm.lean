import ScatterPick.Number.Notation
import ScatterPick.Yaml.Printer
import ScatterPick.Yaml.Typed

/-!
# Settings in YAML

The written form of settings as nested groups, and the reading of it. Both list the fields of a
group in the same order; reading takes them in any order and fills in defaults.
-/

namespace ScatterPick

open Yaml Number

/-- A key as a YAML scalar. -/
def Key.toYaml : Key → List Char
  | shift => "Shift".toList
  | ctrl => "Ctrl".toList
  | alt => "Alt".toList
  | other name => "!Other ".toList ++ writeText name

/-- A single as a YAML scalar. -/
def yamlSingle (x : Float32) : List Char := (Style.yamlSingle.single x).toList

/-- A colour as a YAML sequence. -/
def Color.toYaml (c : Color) : Block :=
  .items ([c.red, c.green, c.blue].map fun n => Number.digits n.toNat)

/-- Selection settings as a YAML group. -/
def SelectionSettings.toYaml (s : SelectionSettings) : Block :=
  .group [("alpha_other", .scalar (yamlSingle s.alphaOther)),
    ("expand_selected", .scalar ((s.expandSelected.map yamlSingle).getD "null".toList)),
    ("click_tolerance", .scalar (Style.yamlDouble.double s.clickTolerance).toList),
    ("additive_key", .scalar s.additiveKey.toYaml)]

/-- The settings of the strip as a YAML group. -/
def HudSettings.toYaml (h : HudSettings) : Block :=
  .group [("gap", .scalar (yamlSingle h.gap)), ("size", .scalar (yamlSingle h.size)),
    ("color", h.color.toYaml), ("hover_color", h.hoverColor.toYaml),
    ("title_font_size", .scalar (yamlSingle h.titleFontSize))]

/-- The look of points as a YAML group. -/
def MarkerLook.toYaml (l : MarkerLook) : Block :=
  .group [("color", l.color.toYaml), ("radius", .scalar (yamlSingle l.radius))]

/-- The YAML text of settings. -/
def Settings.writeYaml (s : Settings) : String :=
  String.ofList (writeMembers 0
    [("selection", s.selection.toYaml), ("hud", s.hud.toYaml), ("look", s.look.toYaml)])

/-- A field whose value has a reader of its own. -/
def yamlField {σ α : Type} (name : String) (read : Document → Yaml.Reader α) (put : σ → α → σ) :
    Yaml.GroupField σ :=
  ⟨name, fun d s path node => (read d path node).map (put s)⟩

/-- The fields of the selection settings. -/
def SelectionSettings.yamlFields : List (Yaml.GroupField SelectionSettings) :=
  [yamlField "alpha_other" Yaml.readSingle fun s a => { s with alphaOther := a },
    yamlField "expand_selected" Yaml.readOptional fun s a => { s with expandSelected := a },
    yamlField "click_tolerance" Yaml.readDouble fun s a => { s with clickTolerance := a },
    yamlField "additive_key" Yaml.readKey fun s a => { s with additiveKey := a }]

/-- The fields of the settings of the strip. -/
def HudSettings.yamlFields : List (Yaml.GroupField HudSettings) :=
  [yamlField "gap" Yaml.readSingle fun s a => { s with gap := a },
    yamlField "size" Yaml.readSingle fun s a => { s with size := a },
    yamlField "color" Yaml.readColor fun s a => { s with color := a },
    yamlField "hover_color" Yaml.readColor fun s a => { s with hoverColor := a },
    yamlField "title_font_size" Yaml.readSingle fun s a => { s with titleFontSize := a }]

/-- The fields of the look of points. -/
def MarkerLook.yamlFields : List (Yaml.GroupField MarkerLook) :=
  [yamlField "color" Yaml.readColor fun s a => { s with color := a },
    yamlField "radius" Yaml.readSingle fun s a => { s with radius := a }]

/-- The groups of the settings. -/
def Settings.yamlFields : List (Yaml.GroupField Settings) :=
  [yamlField "selection"
      (fun d => Yaml.readGroup d "SelectionConfig" SelectionSettings.yamlFields {})
      fun s a => { s with selection := a },
    yamlField "hud" (fun d => Yaml.readGroup d "HudConfig" HudSettings.yamlFields {})
      fun s a => { s with hud := a },
    yamlField "look" (fun d => Yaml.readGroup d "PointLook" MarkerLook.yamlFields {})
      fun s a => { s with look := a }]

/-- Why settings cannot be read from a YAML text. -/
inductive YamlProblem where
  /-- The text has no value by itself. -/
  | malformed
  /-- The value has another shape. -/
  | misfit (failure : Yaml.Failure)
  deriving DecidableEq

/-- Reads settings from a document. -/
def Settings.ofDocument (d : Document) : Except Yaml.Failure Settings :=
  Yaml.readGroup d "PersistedConfig" Settings.yamlFields {} .root d.root

/-- Reads settings from a YAML text. -/
def Settings.readYaml (text : String) : Except YamlProblem Settings :=
  match Document.read? text with
  | none => .error .malformed
  | some d =>
    match Settings.ofDocument d with
    | .ok s => .ok s
    | .error e => .error (if d.isValue then .misfit e else .malformed)

end ScatterPick
