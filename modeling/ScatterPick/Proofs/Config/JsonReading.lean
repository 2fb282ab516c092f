import ScatterPick.Proofs.Config.Numbers
import ScatterPick.Proofs.Json.Indented
import ScatterPick.Proofs.Number.Special

/-!
# Settings read back from JSON

What becomes of settings that are written in JSON and read again. A number that is not finite is
written as null: where a number has to stand it cannot be read, and an expansion is read as absent.
-/

namespace ScatterPick

open Json Number

/-! ## Numbers -/

/-- Null stands where something else is wanted. -/
def nullFor (wanted : Wanted) : Problem := .mismatch (.kind (.null "null") wanted)

/-- What a number is read back as. -/
def numberBack {α : Type} (wanted : Wanted) (finite : Bool) (x : α) : Except Problem α :=
  if finite then .ok x else .error (nullFor wanted)

theorem single_text_of_not_finite {x : Float32} (h : x.isFinite = false) :
    Style.jsonSingle.single x = "null" := by
  rcases single_of_not_finite h with rfl | rfl | rfl
  · decide +kernel
  · decide +kernel
  · decide +kernel

theorem double_text_of_not_finite {x : Float} (h : x.isFinite = false) :
    Style.jsonDouble.double x = "null" := by
  rcases double_of_not_finite h with rfl | rfl | rfl
  · decide +kernel
  · decide +kernel
  · decide +kernel

theorem yields_jsonSingle {x : Float32}
    (h : x.isFinite = true → ReadsBack readSingle (Style.jsonSingle.single x) x) (level : Nat) :
    Yields readSingle ((jsonSingle x).indented level) (numberBack .single x.isFinite x) := by
  rw [jsonSingle, indented]
  cases hx : x.isFinite with
  | true => exact yields_number (h hx)
  | false =>
    rw [single_text_of_not_finite hx]
    exact yields_null

theorem yields_jsonDouble {x : Float}
    (h : x.isFinite = true → ReadsBack readDouble (Style.jsonDouble.double x) x) (level : Nat) :
    Yields readDouble ((Json.number (Style.jsonDouble.double x)).indented level)
      (numberBack .double x.isFinite x) := by
  rw [indented]
  cases hx : x.isFinite with
  | true => exact yields_number (h hx)
  | false =>
    rw [double_text_of_not_finite hx]
    exact yields_null

/-- An expansion that is not finite is read as absent. -/
theorem yields_jsonExpansion {x : Option Float32}
    (h : ∀ y ∈ x, y.isFinite = true → ReadsBack readSingle (Style.jsonSingle.single y) y)
    (level : Nat) :
    Yields readOptional (((x.map jsonSingle).getD .null).indented level)
      (.ok (x.filter Float32.isFinite)) := by
  cases x with
  | none => exact yields_optional_null
  | some y =>
    rw [Option.map_some, Option.getD_some, jsonSingle, indented]
    cases hy : y.isFinite with
    | true =>
      rw [Option.filter_some_pos hy]
      exact yields_optional (h y rfl hy)
    | false =>
      rw [Option.filter_some_neg (by rw [hy]), single_text_of_not_finite hy]
      exact yields_optional_null

/-! ## Groups -/

/-- A field as it is written, with what its value is read back as. -/
def writtenField {σ α : Type} (name : String) (value : Json) (back : Except Problem α)
    (put : σ → α → σ) : Member σ :=
  ⟨name, value, fun group => back.map (put group)⟩

theorem writtenField_fits {σ α : Type} {fields : List (GroupField σ)} {level : Nat} {name : String}
    {read : Reader α} {put : σ → α → σ} {value : Json} {back : Except Problem α}
    (hfield : fields.find? (·.name == name) = some (jsonField name read put))
    (h : Yields read (value.indented level) back) :
    (writtenField name value back put).Fits fields level :=
  ⟨_, hfield, fun group => yields_jsonField h group⟩

/-- The selection settings as they are written. -/
def SelectionSettings.jsonMembers (s : SelectionSettings) : List (Member SelectionSettings) :=
  [writtenField "alpha_other" (jsonSingle s.alphaOther)
      (numberBack .single s.alphaOther.isFinite s.alphaOther) fun s a => { s with alphaOther := a },
    writtenField "expand_selected" ((s.expandSelected.map jsonSingle).getD .null)
      (.ok (s.expandSelected.filter Float32.isFinite)) fun s a => { s with expandSelected := a },
    writtenField "click_tolerance" (.number (Style.jsonDouble.double s.clickTolerance))
      (numberBack .double s.clickTolerance.isFinite s.clickTolerance)
      fun s a => { s with clickTolerance := a },
    writtenField "additive_key" s.additiveKey.toJson (.ok s.additiveKey)
      fun s a => { s with additiveKey := a }]

/-- The settings of the strip as they are written. -/
def HudSettings.jsonMembers (h : HudSettings) : List (Member HudSettings) :=
  [writtenField "gap" (jsonSingle h.gap) (numberBack .single h.gap.isFinite h.gap)
      fun s a => { s with gap := a },
    writtenField "size" (jsonSingle h.size) (numberBack .single h.size.isFinite h.size)
      fun s a => { s with size := a },
    writtenField "color" h.color.toJson (.ok h.color) fun s a => { s with color := a },
    writtenField "hover_color" h.hoverColor.toJson (.ok h.hoverColor)
      fun s a => { s with hoverColor := a },
    writtenField "title_font_size" (jsonSingle h.titleFontSize)
      (numberBack .single h.titleFontSize.isFinite h.titleFontSize)
      fun s a => { s with titleFontSize := a }]

/-- The look of points as it is written. -/
def MarkerLook.jsonMembers (l : MarkerLook) : List (Member MarkerLook) :=
  [writtenField "color" l.color.toJson (.ok l.color) fun s a => { s with color := a },
    writtenField "radius" (jsonSingle l.radius) (numberBack .single l.radius.isFinite l.radius)
      fun s a => { s with radius := a }]

/-- Settings as they are written. -/
def Settings.jsonMembers (s : Settings) : List (Member Settings) :=
  [writtenField "selection" s.selection.toJson (groupBack s.selection.jsonMembers {})
      fun s a => { s with selection := a },
    writtenField "hud" s.hud.toJson (groupBack s.hud.jsonMembers {}) fun s a => { s with hud := a },
    writtenField "look" s.look.toJson (groupBack s.look.jsonMembers {})
      fun s a => { s with look := a }]

section Groups

variable {level : Nat}

theorem yields_selection {s : SelectionSettings}
    (halpha : s.alphaOther.isFinite = true →
      ReadsBack readSingle (Style.jsonSingle.single s.alphaOther) s.alphaOther)
    (hexpand : ∀ x ∈ s.expandSelected, x.isFinite = true →
      ReadsBack readSingle (Style.jsonSingle.single x) x)
    (htolerance : s.clickTolerance.isFinite = true →
      ReadsBack readDouble (Style.jsonDouble.double s.clickTolerance) s.clickTolerance) :
    Yields (readGroup "SelectionConfig" SelectionSettings.jsonFields {}) (s.toJson.indented level)
      (groupBack s.jsonMembers {}) := by
  have hjson : s.toJson = .object (s.jsonMembers.map fun m => (m.name, m.value)) := rfl
  have hnames : s.jsonMembers.map (·.name) =
      ["alpha_other", "expand_selected", "click_tolerance", "additive_key"] := rfl
  rw [hjson]
  refine yields_group _ _ level (fun m hm => ?_) (by rw [hnames]; decide)
  simp only [SelectionSettings.jsonMembers, List.mem_cons, List.not_mem_nil, or_false] at hm
  rcases hm with rfl | rfl | rfl | rfl
  · exact writtenField_fits rfl (yields_jsonSingle halpha _)
  · exact writtenField_fits rfl (yields_jsonExpansion hexpand _)
  · exact writtenField_fits rfl (yields_jsonDouble htolerance _)
  · exact writtenField_fits rfl (spellsKey_indented _ _).yields

theorem yields_hud {h : HudSettings}
    (hgap : h.gap.isFinite = true → ReadsBack readSingle (Style.jsonSingle.single h.gap) h.gap)
    (hsize : h.size.isFinite = true → ReadsBack readSingle (Style.jsonSingle.single h.size) h.size)
    (hfont : h.titleFontSize.isFinite = true →
      ReadsBack readSingle (Style.jsonSingle.single h.titleFontSize) h.titleFontSize) :
    Yields (readGroup "HudConfig" HudSettings.jsonFields {}) (h.toJson.indented level)
      (groupBack h.jsonMembers {}) := by
  have hjson : h.toJson = .object (h.jsonMembers.map fun m => (m.name, m.value)) := rfl
  have hnames : h.jsonMembers.map (·.name) =
      ["gap", "size", "color", "hover_color", "title_font_size"] := rfl
  rw [hjson]
  refine yields_group _ _ level (fun m hm => ?_) (by rw [hnames]; decide)
  simp only [HudSettings.jsonMembers, List.mem_cons, List.not_mem_nil, or_false] at hm
  rcases hm with rfl | rfl | rfl | rfl | rfl
  · exact writtenField_fits rfl (yields_jsonSingle hgap _)
  · exact writtenField_fits rfl (yields_jsonSingle hsize _)
  · exact writtenField_fits rfl (spellsColor_indented _ _).yields
  · exact writtenField_fits rfl (spellsColor_indented _ _).yields
  · exact writtenField_fits rfl (yields_jsonSingle hfont _)

theorem yields_look {l : MarkerLook}
    (hradius : l.radius.isFinite = true →
      ReadsBack readSingle (Style.jsonSingle.single l.radius) l.radius) :
    Yields (readGroup "PointLook" MarkerLook.jsonFields {}) (l.toJson.indented level)
      (groupBack l.jsonMembers {}) := by
  have hjson : l.toJson = .object (l.jsonMembers.map fun m => (m.name, m.value)) := rfl
  have hnames : l.jsonMembers.map (·.name) = ["color", "radius"] := rfl
  rw [hjson]
  refine yields_group _ _ level (fun m hm => ?_) (by rw [hnames]; decide)
  simp only [MarkerLook.jsonMembers, List.mem_cons, List.not_mem_nil, or_false] at hm
  rcases hm with rfl | rfl
  · exact writtenField_fits rfl (spellsColor_indented _ _).yields
  · exact writtenField_fits rfl (yields_jsonSingle hradius _)

theorem yields_settings (level : Nat) {s : Settings} (h : s.NumbersReadBack) :
    Yields (readGroup "PersistedConfig" Settings.jsonFields {}) (s.toJson.indented level)
      (groupBack s.jsonMembers {}) := by
  have hjson : s.toJson = .object (s.jsonMembers.map fun m => (m.name, m.value)) := rfl
  have hnames : s.jsonMembers.map (·.name) = ["selection", "hud", "look"] := rfl
  have hsingle {x : Float32} (hx : x ∈ s.requiredSingles) (hfinite : x.isFinite = true) :
      ReadsBack readSingle (Style.jsonSingle.single x) x :=
    (h.single x (List.mem_append_right _ hx) hfinite).1
  have hexpand : ∀ x ∈ s.selection.expandSelected, x.isFinite = true →
      ReadsBack readSingle (Style.jsonSingle.single x) x := fun x hx hfinite =>
    (h.single x (List.mem_append_left _ (Option.mem_toList.mpr hx)) hfinite).1
  rw [hjson]
  refine yields_group _ _ level (fun m hm => ?_) (by rw [hnames]; decide)
  simp only [Settings.jsonMembers, List.mem_cons, List.not_mem_nil, or_false] at hm
  rcases hm with rfl | rfl | rfl
  · refine writtenField_fits rfl (yields_selection (hsingle ?_) hexpand fun hx => (h.double hx).1)
    simp [Settings.requiredSingles]
  · refine writtenField_fits rfl (yields_hud (hsingle ?_) (hsingle ?_) (hsingle ?_)) <;>
      simp [Settings.requiredSingles]
  · refine writtenField_fits rfl (yields_look (hsingle ?_))
    simp [Settings.requiredSingles]

end Groups

/-! ## Results -/

theorem groupBack_selection (s : SelectionSettings) :
    groupBack s.jsonMembers {} =
      if s.alphaOther.isFinite then
        if s.clickTolerance.isFinite then
          .ok { s with expandSelected := s.expandSelected.filter Float32.isFinite }
        else .error (nullFor .double)
      else .error (nullFor .single) := by
  simp only [groupBack, SelectionSettings.jsonMembers, writtenField, numberBack, List.foldlM_cons,
    List.foldlM_nil]
  cases s.alphaOther.isFinite with
  | false => rfl
  | true =>
    cases s.clickTolerance.isFinite with
    | false => rfl
    | true => rfl

theorem groupBack_hud (h : HudSettings) :
    groupBack h.jsonMembers {} =
      if h.gap.isFinite && h.size.isFinite && h.titleFontSize.isFinite then .ok h
      else .error (nullFor .single) := by
  simp only [groupBack, HudSettings.jsonMembers, writtenField, numberBack, List.foldlM_cons,
    List.foldlM_nil]
  cases h.gap.isFinite with
  | false => rfl
  | true =>
    cases h.size.isFinite with
    | false => rfl
    | true =>
      cases h.titleFontSize.isFinite with
      | false => rfl
      | true => rfl

theorem groupBack_look (l : MarkerLook) :
    groupBack l.jsonMembers {} =
      if l.radius.isFinite then .ok l else .error (nullFor .single) := by
  simp only [groupBack, MarkerLook.jsonMembers, writtenField, numberBack, List.foldlM_cons,
    List.foldlM_nil]
  cases l.radius.isFinite with
  | false => rfl
  | true => rfl

/-- Settings without an expansion that is not finite. -/
def Settings.withFiniteExpansion (s : Settings) : Settings :=
  { s with selection :=
    { s.selection with expandSelected := s.selection.expandSelected.filter Float32.isFinite } }

/-- Settings are read back if all numbers that they always hold are finite. -/
theorem groupBack_settings (s : Settings) :
    if s.requiredFinite then groupBack s.jsonMembers {} = .ok s.withFiniteExpansion
    else ∃ wanted, (wanted = .single ∨ wanted = .double) ∧
      groupBack s.jsonMembers {} = .error (nullFor wanted) := by
  rw [groupBack, Settings.jsonMembers]
  simp only [writtenField, List.foldlM_cons, List.foldlM_nil, groupBack_selection, groupBack_hud,
    groupBack_look, Settings.requiredFinite, Settings.requiredSingles, List.all_cons, List.all_nil,
    Bool.and_true]
  cases s.selection.alphaOther.isFinite with
  | false => exact ⟨.single, Or.inl rfl, rfl⟩
  | true =>
    cases s.selection.clickTolerance.isFinite with
    | false =>
      rw [Bool.and_false]
      exact ⟨.double, Or.inr rfl, rfl⟩
    | true =>
      rw [Bool.and_true, Bool.true_and, ← Bool.and_assoc, ← Bool.and_assoc]
      cases s.hud.gap.isFinite && s.hud.size.isFinite && s.hud.titleFontSize.isFinite with
      | false => exact ⟨.single, Or.inl rfl, rfl⟩
      | true =>
        cases s.look.radius.isFinite with
        | false => exact ⟨.single, Or.inl rfl, rfl⟩
        | true => rfl

/-- What settings are read back as from JSON. -/
theorem readJson_toJson {s : Settings} (h : s.NumbersReadBack) :
    match groupBack s.jsonMembers {} with
    | .ok back => Settings.readJson s.toJson.pretty = .ok back
    | .error problem =>
      ∃ e, Settings.readJson s.toJson.pretty = .error e ∧ e.problem = problem := by
  have hread := yields_settings 0 h [] [] ⟨1, 0⟩ rfl .nil
  have htext : Cursor.ofText s.toJson.pretty = ⟨s.toJson.indented 0, ⟨1, 0⟩⟩ := by
    rw [Cursor.ofText, pretty, String.toList_ofList]
  rw [List.nil_append, List.append_nil, ← htext] at hread
  cases hback : groupBack s.jsonMembers {} with
  | ok back =>
    rw [hback] at hread
    obtain ⟨p, hp⟩ := outcome_eq_ok.mp hread
    simp only [Settings.readJson, hp, bind, Except.bind]
    rfl
  | error problem =>
    rw [hback] at hread
    obtain ⟨e, hp, he⟩ := outcome_eq_error.mp hread
    refine ⟨e, ?_, he⟩
    simp only [Settings.readJson, hp, bind, Except.bind]

end ScatterPick
