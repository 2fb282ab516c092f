import ScatterPick.Config.Sanitize
import ScatterPick.Proofs.Number.Order

/-!
# What sanitizing keeps

Each field of the settings has a domain. Sanitizing leads into all domains and keeps exactly the
fields that lie in theirs already; that it warns of every other field once, and that a second pass
has nothing left to do, both come down to this.
-/

namespace ScatterPick

/-- Whether an opacity lies between zero and one. -/
def IsOpacity (a : Float32) : Prop := 0.0 ≤ a ∧ a ≤ 1.0

theorem validAlpha_iff {a : Float32} : validAlpha a = true ↔ IsOpacity a := by
  rw [validAlpha, Bool.and_eq_true, decide_eq_true_iff, decide_eq_true_iff, IsOpacity]

theorem validTolerance_iff {t : Float} :
    validTolerance t = true ↔ 0.0 ≤ t ∧ t.isFinite = true := by
  rw [validTolerance, Bool.and_eq_true, decide_eq_true_iff]

theorem validFactor_iff {f : Float32} : validFactor f = true ↔ 0.0 < f ∧ f.isFinite = true := by
  rw [validFactor, Bool.and_eq_true, decide_eq_true_iff]

theorem isOpacity_one : IsOpacity 1.0 := validAlpha_iff.mp (by decide)

/-- Whatever the number, what is used in its place is an opacity. -/
theorem isOpacity_clampAlpha (a : Float32) : IsOpacity (clampAlpha a) := by
  have hzero : (0.0 : Float32).isNaN = false := by decide
  have hone : (1.0 : Float32).isNaN = false := by decide
  rw [clampAlpha]
  split
  next hnan => exact validAlpha_iff.mp (by decide)
  next hnumber =>
    have ha : a.isNaN = false := Bool.eq_false_iff.mpr hnumber
    split
    next hbelow => exact validAlpha_iff.mp (by decide)
    next hnot_below =>
      split
      next habove => exact isOpacity_one
      next hnot_above =>
        exact ⟨(Number.single_not_lt ha hzero).mp hnot_below,
          (Number.single_not_lt hone ha).mp hnot_above⟩

/-! ## Fields -/

/-- The fields of the selection settings, in the order in which they are checked. -/
inductive SelectionField where
  | alphaOther
  | clickTolerance
  | expandSelected
  | additiveKey
  deriving DecidableEq

namespace SelectionField

/-- All fields. -/
def all : List SelectionField := [alphaOther, clickTolerance, expandSelected, additiveKey]

/-- Whether a field of the settings lies in its domain. Any key will do. -/
def Valid (s : SelectionSettings) : SelectionField → Prop
  | alphaOther => IsOpacity s.alphaOther
  | clickTolerance => 0.0 ≤ s.clickTolerance ∧ s.clickTolerance.isFinite = true
  | expandSelected => ∀ f ∈ s.expandSelected, 0.0 < f ∧ f.isFinite = true
  | additiveKey => True

/-- Whether two settings have the very same value in a field. -/
def agrees (s t : SelectionSettings) : SelectionField → Bool
  | alphaOther => s.alphaOther = t.alphaOther
  | clickTolerance => s.clickTolerance = t.clickTolerance
  | expandSelected => s.expandSelected = t.expandSelected
  | additiveKey => s.additiveKey = t.additiveKey

end SelectionField

/-- Whether a field lies in its domain is a matter of its value. -/
theorem SelectionField.valid_iff_of_agrees {s t : SelectionSettings} {f : SelectionField}
    (h : f.agrees s t = true) : f.Valid s ↔ f.Valid t := by
  cases f with
  | alphaOther => rw [Valid, Valid, of_decide_eq_true h]
  | clickTolerance => rw [Valid, Valid, of_decide_eq_true h]
  | expandSelected => rw [Valid, Valid, of_decide_eq_true h]
  | additiveKey => exact Iff.rfl

/-- Settings that agree in every field are the same. -/
theorem SelectionSettings.eq_of_agrees {s t : SelectionSettings}
    (h : ∀ f : SelectionField, f.agrees s t = true) : s = t := by
  obtain ⟨alpha, expand, tolerance, key⟩ := s
  obtain ⟨alpha', expand', tolerance', key'⟩ := t
  obtain rfl : alpha = alpha' := of_decide_eq_true (h .alphaOther)
  obtain rfl : tolerance = tolerance' := of_decide_eq_true (h .clickTolerance)
  obtain rfl : expand = expand' := of_decide_eq_true (h .expandSelected)
  obtain rfl : key = key' := of_decide_eq_true (h .additiveKey)
  rfl

/-- The field whose value a log entry says is not used. -/
def LogEntry.replaced? : LogEntry → Option SelectionField
  | .alphaClamped .. => some .alphaOther
  | .toleranceReset _ => some .clickTolerance
  | .expansionDisabled _ => some .expandSelected
  | _ => none

namespace SelectionSettings

variable (s : SelectionSettings)

/-- After sanitizing every field lies in its domain. -/
theorem valid_sanitized (f : SelectionField) : f.Valid s.sanitized := by
  cases f with
  | alphaOther =>
    change IsOpacity (if validAlpha s.alphaOther then s.alphaOther else clampAlpha s.alphaOther)
    split
    next hvalid => exact validAlpha_iff.mp hvalid
    next hinvalid => exact isOpacity_clampAlpha s.alphaOther
  | clickTolerance =>
    refine validTolerance_iff.mp ?_
    simp only [sanitized]
    split
    next hvalid => exact hvalid
    next hinvalid => decide
  | expandSelected =>
    intro f hf
    exact validFactor_iff.mp (Option.mem_filter_iff.mp hf).2
  | additiveKey => trivial

/-- Sanitizing keeps a field exactly if it lies in its domain. -/
theorem agrees_sanitized_iff (f : SelectionField) :
    f.agrees s s.sanitized = true ↔ f.Valid s := by
  constructor
  · intro h
    exact (SelectionField.valid_iff_of_agrees h).mpr (s.valid_sanitized f)
  · intro h
    cases f with
    | alphaOther => exact decide_eq_true (if_pos (validAlpha_iff.mpr h)).symm
    | clickTolerance => exact decide_eq_true (if_pos (validTolerance_iff.mpr h)).symm
    | expandSelected =>
      refine decide_eq_true ?_
      cases hfactor : s.expandSelected with
      | none => simp [sanitized, hfactor]
      | some factor =>
        have hvalid : validFactor factor = true := validFactor_iff.mpr (h factor hfactor)
        rw [sanitized, hfactor, Option.filter_some_pos hvalid]
    | additiveKey => exact decide_eq_true rfl

/-- Every warning is of a field that sanitizing changes, and there is one for each such field, in
the order of the checks. -/
theorem replaced_warnings :
    s.warnings.map LogEntry.replaced? =
      (SelectionField.all.filter fun f => !f.agrees s s.sanitized).map some := by
  have hfield (f : SelectionField) {valid : Bool} (hvalid : valid = true ↔ f.Valid s) :
      [f].filter (fun f => !f.agrees s s.sanitized) = if valid then [] else [f] := by
    have hagrees : f.agrees s s.sanitized = valid := by
      rw [Bool.eq_iff_iff, agrees_sanitized_iff, hvalid]
    rw [List.filter_cons, List.filter_nil, hagrees]
    cases valid <;> rfl
  have hfactor :
      s.expandSelected.all validFactor = true ↔ SelectionField.expandSelected.Valid s := by
    cases hs : s.expandSelected with
    | none => simp [SelectionField.Valid, hs]
    | some factor => simp [SelectionField.Valid, hs, validFactor_iff]
  have hall : SelectionField.all =
      [.alphaOther] ++ [.clickTolerance] ++ [.expandSelected] ++ [.additiveKey] := rfl
  rw [hall, List.filter_append, List.filter_append, List.filter_append,
    hfield .alphaOther validAlpha_iff, hfield .clickTolerance validTolerance_iff,
    hfield .expandSelected hfactor, hfield .additiveKey  (iff_of_true rfl trivial),
    if_pos rfl, List.append_nil, warnings, List.map_append, List.map_append, List.map_append,
    List.map_append]
  congr 1
  · congr 1
    · cases validAlpha s.alphaOther <;> rfl
    · cases validTolerance s.clickTolerance <;> rfl
  · cases s.expandSelected with
    | none => rfl
    | some factor =>
      rw [Option.all_some]
      cases h : validFactor factor <;> simp [h, LogEntry.replaced?]

/-- Nothing but warnings is logged. -/
theorem level_of_mem_warnings {e : LogEntry} (he : e ∈ s.warnings) : e.level = .warn := by
  have hreplaced : e.replaced? ∈ s.warnings.map LogEntry.replaced? := List.mem_map_of_mem he
  rw [replaced_warnings] at hreplaced
  obtain ⟨f, -, hf⟩ := List.mem_map.mp hreplaced
  cases e with
  | alphaClamped | toleranceReset | expansionDisabled => rfl
  | _ => cases hf

/-- Sanitizing again changes nothing. -/
theorem sanitized_sanitized : s.sanitized.sanitized = s.sanitized :=
  (eq_of_agrees fun f => (agrees_sanitized_iff _ f).mpr (s.valid_sanitized f)).symm

/-- Sanitized settings are warned of in no field. -/
theorem warnings_sanitized : s.sanitized.warnings = [] := by
  have hkept : SelectionField.all.filter (fun f => !f.agrees s.sanitized s.sanitized.sanitized) =
      [] := by
    refine List.filter_eq_nil_iff.mpr fun f _ => ?_
    simp [(agrees_sanitized_iff _ f).mpr (s.valid_sanitized f)]
  have hnone := replaced_warnings s.sanitized
  rw [hkept, List.map_nil] at hnone
  exact List.map_eq_nil_iff.mp hnone

end SelectionSettings

end ScatterPick
