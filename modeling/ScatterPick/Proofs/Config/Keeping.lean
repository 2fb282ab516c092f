import Mathlib.Data.List.Forall2
import ScatterPick.Config.Settings

/-!
# A part of the settings

Settings of which the named fields are kept, on two levels: a group that is not named has its
defaults throughout, and so has a field of a group. Whoever puts the named fields into a group one
after the other, in whatever order, keeps the same part.
-/

namespace ScatterPick

/-! ## Overlays -/

/-- Named fields are put into a group: all at once or name by name, and none for another name. -/
structure IsOverlay {σ : Type} (fieldNames : List String) (put : List String → σ → σ) : Prop where
  none : ∀ group, put [] group = group
  cons : ∀ name names group, put (name :: names) group = put names (put [name] group)
  unknown : ∀ name, name ∉ fieldNames → ∀ group, put [name] group = group

theorem IsOverlay.foldl {σ : Type} {fieldNames : List String} {put : List String → σ → σ}
    (h : IsOverlay fieldNames put) (names : List String) (group : σ) :
    names.foldl (fun group name => put [name] group) group = put names group := by
  induction names generalizing group with
  | nil => exact (h.none group).symm
  | cons name names ih => rw [List.foldl_cons, ih, ← h.cons]

/-- A choice by the names in a list is one by the first name and then by the others. -/
theorem ite_mem_cons {α : Type} (field name : String) (names : List String) (a b : α) :
    (if field ∈ name :: names then a else b) =
      if field ∈ names then a else if field ∈ [name] then a else b := by
  by_cases h : field ∈ names <;> simp [h]

/-! ## Groups -/

namespace SelectionSettings

/-- A group with the named fields of some settings. -/
def onto (s : SelectionSettings) (names : List String) (group : SelectionSettings) :
    SelectionSettings where
  alphaOther := if "alpha_other" ∈ names then s.alphaOther else group.alphaOther
  expandSelected := if "expand_selected" ∈ names then s.expandSelected else group.expandSelected
  clickTolerance := if "click_tolerance" ∈ names then s.clickTolerance else group.clickTolerance
  additiveKey := if "additive_key" ∈ names then s.additiveKey else group.additiveKey

/-- The named fields of some settings, and the defaults of the others. -/
def keeping (s : SelectionSettings) (names : List String) : SelectionSettings := s.onto names {}

theorem onto_isOverlay (s : SelectionSettings) :
    IsOverlay ["alpha_other", "expand_selected", "click_tolerance", "additive_key"] s.onto where
  none _ := rfl
  cons name names _ := by simp only [onto, ite_mem_cons _ name names]
  unknown name h group := by
    simp only [List.mem_cons, not_or, @eq_comm _ name] at h
    simp [onto, h]

end SelectionSettings

namespace HudSettings

/-- A group with the named fields of some settings. -/
def onto (s : HudSettings) (names : List String) (group : HudSettings) : HudSettings where
  gap := if "gap" ∈ names then s.gap else group.gap
  size := if "size" ∈ names then s.size else group.size
  color := if "color" ∈ names then s.color else group.color
  hoverColor := if "hover_color" ∈ names then s.hoverColor else group.hoverColor
  titleFontSize := if "title_font_size" ∈ names then s.titleFontSize else group.titleFontSize

/-- The named fields of some settings, and the defaults of the others. -/
def keeping (s : HudSettings) (names : List String) : HudSettings := s.onto names {}

theorem onto_isOverlay (s : HudSettings) :
    IsOverlay ["gap", "size", "color", "hover_color", "title_font_size"] s.onto where
  none _ := rfl
  cons name names _ := by simp only [onto, ite_mem_cons _ name names]
  unknown name h group := by
    simp only [List.mem_cons, not_or, @eq_comm _ name] at h
    simp [onto, h]

end HudSettings

namespace MarkerLook

/-- A group with the named fields of some look. -/
def onto (s : MarkerLook) (names : List String) (group : MarkerLook) : MarkerLook where
  color := if "color" ∈ names then s.color else group.color
  radius := if "radius" ∈ names then s.radius else group.radius

/-- The named fields of some look, and the defaults of the others. -/
def keeping (s : MarkerLook) (names : List String) : MarkerLook := s.onto names {}

theorem onto_isOverlay (s : MarkerLook) : IsOverlay ["color", "radius"] s.onto where
  none _ := rfl
  cons name names _ := by simp only [onto, ite_mem_cons _ name names]
  unknown name h group := by
    simp only [List.mem_cons, not_or, @eq_comm _ name] at h
    simp [onto, h]

end MarkerLook

/-! ## All settings -/

/-- The names in a file: those of its groups, and those in each group. -/
structure Named where
  groups : List String
  selection : List String := []
  hud : List String := []
  look : List String := []

namespace Settings

/-- Settings with the named groups of some settings. -/
def onto (s : Settings) (groups : List String) (settings : Settings) : Settings where
  selection := if "selection" ∈ groups then s.selection else settings.selection
  hud := if "hud" ∈ groups then s.hud else settings.hud
  look := if "look" ∈ groups then s.look else settings.look

/-- The named fields of all groups of some settings, and the defaults of the other fields. -/
def trimmed (s : Settings) (n : Named) : Settings where
  selection := s.selection.keeping n.selection
  hud := s.hud.keeping n.hud
  look := s.look.keeping n.look

/-- The named fields of the named groups of some settings, and the defaults of all others. -/
def keeping (s : Settings) (n : Named) : Settings := (s.trimmed n).onto n.groups {}

theorem onto_isOverlay (s : Settings) : IsOverlay ["selection", "hud", "look"] s.onto where
  none _ := rfl
  cons name names _ := by simp only [onto, ite_mem_cons _ name names]
  unknown name h group := by
    simp only [List.mem_cons, not_or, @eq_comm _ name] at h
    simp [onto, h]

/-- All names that settings are written with. -/
def allNamed : Named where
  groups := ["selection", "hud", "look"]
  selection := ["alpha_other", "expand_selected", "click_tolerance", "additive_key"]
  hud := ["gap", "size", "color", "hover_color", "title_font_size"]
  look := ["color", "radius"]

/-- Settings of which everything is kept. -/
theorem keeping_allNamed (s : Settings) : s.keeping allNamed = s := by
  simp [keeping, trimmed, onto, allNamed, SelectionSettings.keeping, SelectionSettings.onto,
    HudSettings.keeping, HudSettings.onto, MarkerLook.keeping, MarkerLook.onto]

end Settings

/-! ## Values in a file -/

/-- A field that a file may name, with what may stand in the file for its value. -/
structure Known (α : Type) where
  name : String
  Stands : α → Prop

/-- What may stand in a file under a name: the value of the field with the name, or something else
if there is no such field. -/
def Known.Allows {α : Type} (fields : List (Known α)) (other : α → Prop) (name : String) (a : α) :
    Prop :=
  match fields.find? (·.name == name) with
  | some f => f.Stands a
  | none => other a

/-- Fields and their readers, which have the same names, are found together. -/
theorem Known.find?_pair {α β : Type} {R : Known α → β → Prop} {nameOf : β → String}
    {fields : List (Known α)} {readers : List β} (h : List.Forall₂ R fields readers)
    (hname : ∀ field f, R field f → nameOf f = field.name) (name : String) :
    (∃ field f, fields.find? (·.name == name) = some field ∧
      readers.find? (nameOf · == name) = some f ∧ field.name = name ∧ R field f) ∨
    (fields.find? (·.name == name) = none ∧ readers.find? (nameOf · == name) = none) := by
  induction h with
  | nil => exact .inr ⟨rfl, rfl⟩
  | @cons field f fields readers hread _ ih =>
    have hsame := hname field f hread
    cases heq : field.name == name with
    | true =>
      refine .inl ⟨field, f, List.find?_cons_of_pos heq, List.find?_cons_of_pos ?_,
        beq_iff_eq.mp heq, hread⟩
      rwa [hsame]
    | false =>
      rwa [List.find?_cons_of_neg (by rw [heq]; simp),
        List.find?_cons_of_neg (by rw [hsame, heq]; simp)]

/-- A name without a field is none of the names. -/
theorem Known.not_mem_of_find? {α : Type} {fields : List (Known α)} {name : String}
    (h : fields.find? (·.name == name) = none) : name ∉ fields.map (·.name) := by
  intro hmem
  obtain ⟨f, hf, rfl⟩ := List.mem_map.mp hmem
  exact List.find?_eq_none.mp h f hf (beq_self_eq_true _)

end ScatterPick
