import Mathlib.Data.List.Induction
import ScatterPick.Proofs.Style.Marker

/-!
# Selections shown one after the other

However many selections are shown, each with an emphasis of its own, the opacities tell of the last
one alone, and the sizes of the last one that came with a size factor. Opacities and sizes may
therefore tell of different selections, but neither tells of more than one.
-/

namespace ScatterPick.MarkerStyles

/-- The styles after showing selections one after the other. -/
def applyAll (m : MarkerStyles) (steps : List (Selection × Emphasis)) : MarkerStyles :=
  steps.foldl (fun m step => m.apply step.1 step.2) m

theorem applyAll_concat (m : MarkerStyles) (steps : List (Selection × Emphasis))
    (step : Selection × Emphasis) :
    m.applyAll (steps ++ [step]) = (m.applyAll steps).apply step.1 step.2 := by
  simp [applyAll]

/-- The last selection that was shown with a size factor, and the factor. -/
def lastExpansion (steps : List (Selection × Emphasis)) : Option (Selection × Float32) :=
  (steps.filterMap fun step => step.2.expandSelected.map (step.1, ·)).getLast?

theorem lastExpansion_concat (steps : List (Selection × Emphasis))
    (step : Selection × Emphasis) :
    lastExpansion (steps ++ [step]) =
      (step.2.expandSelected.map (step.1, ·)).or (lastExpansion steps) := by
  rw [lastExpansion, List.filterMap_append, List.getLast?_append, lastExpansion]
  cases h : step.2.expandSelected with
  | none => simp [h]
  | some factor => simp [h]

/-- The styles tell of the last selection, and of the last one with a size factor. -/
structure TellsOf (points : Nat) (start : CanvasStyle) (steps : List (Selection × Emphasis))
    (m : MarkerStyles) : Prop where
  pointCount : m.pointCount = points
  baseSize : m.baseSize = start.sizes.head?.getD fallbackSize
  alphas : m.alphas = steps.getLast?.elim start.alphas fun last =>
    (List.range (max points start.alphas.length)).map (alphaAt last.2 last.1)
  sizes : m.sizes = (lastExpansion steps).elim start.sizes fun last =>
    (List.range (max points start.sizes.length)).map
      (sizeAt last.2 (start.sizes.head?.getD fallbackSize) last.1)

namespace TellsOf

variable {points : Nat} {start : CanvasStyle} {steps : List (Selection × Emphasis)}
  {m : MarkerStyles}

/-- The opacities have been widened or will be. -/
theorem length_alphas (h : TellsOf points start steps m) :
    max points m.alphas.length = max points start.alphas.length := by
  rw [h.alphas]
  cases steps.getLast? with
  | none => rfl
  | some last => simp

/-- The sizes have been widened or will be when they are first written. -/
theorem length_sizes (h : TellsOf points start steps m) :
    max points m.sizes.length = max points start.sizes.length := by
  rw [h.sizes]
  cases lastExpansion steps with
  | none => rfl
  | some last => simp

/-- Showing one more selection writes over what the opacities told, and over what the sizes told if
it comes with a size factor. -/
theorem apply (h : TellsOf points start steps m) (step : Selection × Emphasis) :
    TellsOf points start (steps ++ [step]) (m.apply step.1 step.2) := by
  rw [apply_eq]
  refine ⟨h.pointCount, h.baseSize, ?_, ?_⟩
  · rw [List.getLast?_concat, Option.elim_some, h.pointCount, h.length_alphas]
  · rw [lastExpansion_concat]
    cases hfactor : step.2.expandSelected with
    | none => exact h.sizes
    | some factor =>
      rw [Option.map_some, Option.some_or]
      simp only [Option.elim_some, h.pointCount, h.baseSize, h.length_sizes]

end TellsOf

theorem tellsOf_applyAll (points : Nat) (alphas sizes : List StyleEntry)
    (steps : List (Selection × Emphasis)) :
    TellsOf points ⟨alphas, sizes⟩ steps ((ofCanvas points alphas sizes).applyAll steps) := by
  induction steps using List.reverseRecOn with
  | nil => exact ⟨rfl, rfl, rfl, rfl⟩
  | append_singleton steps step ih =>
    rw [applyAll_concat]
    exact ih.apply step

/-- Showing the same selection once more changes nothing. -/
theorem apply_apply (m : MarkerStyles) (s : Selection) (e : Emphasis) :
    (m.apply s e).apply s e = m.apply s e := by
  have hwidth (n k : Nat) : max n (max n k) = max n k := by omega
  rw [apply_eq (m.apply s e), apply_eq m]
  cases hfactor : e.expandSelected with
  | none => simp only [Option.elim_none, List.length_map, List.length_range, hwidth]
  | some factor => simp only [Option.elim_some, List.length_map, List.length_range, hwidth]

/-- Showing selections one after the other, each with its own emphasis, never changes the number of
points or the base size. The opacities are those of the last selection, one for each point and each
entry at the start. The sizes are those of the start until a selection comes with a size factor, and
from then on those of the last one that did. Showing a selection twice in a row is showing it
once. -/
theorem applyAll_tells_of_last (points : Nat) (alphas sizes : List StyleEntry)
    {steps : List (Selection × Emphasis)} (hsteps : steps ≠ []) :
    let m := (ofCanvas points alphas sizes).applyAll steps
    let last := steps.getLast hsteps
    let base := sizes.head?.getD fallbackSize
    m.pointCount = points ∧ m.baseSize = base ∧
      m.alphas = (List.range (max points alphas.length)).map (alphaAt last.2 last.1) ∧
      (m.sizes = (lastExpansion steps).elim sizes fun expanded =>
        (List.range (max points sizes.length)).map (sizeAt expanded.2 base expanded.1)) ∧
      (lastExpansion steps = none ↔ ∀ step ∈ steps, step.2.expandSelected = none) ∧
      ∀ (other : MarkerStyles) s e, (other.apply s e).apply s e = other.apply s e := by
  intro m last base
  have h : TellsOf points ⟨alphas, sizes⟩ steps m := tellsOf_applyAll points alphas sizes steps
  refine ⟨h.pointCount, h.baseSize, ?_, h.sizes, ?_, apply_apply⟩
  · rw [h.alphas, List.getLast?_eq_some_getLast hsteps]
    rfl
  · simp [lastExpansion]

/-- After a selection with a size factor and another one without, the opacities tell of the second
and the sizes of the first. An index beyond the entries is passed over. -/
theorem styles_tell_of_two :
    let steps : List (Selection × Emphasis) :=
      [(.ofList [2], ⟨0.75, some 5.0⟩), (.ofList [0], ⟨0.25, some 3.0⟩),
        (.ofList [1, 99], ⟨0.5, none⟩)]
    let m := (ofCanvas 3 [0.125] [2.0, 7.0, 8.0, 9.0]).applyAll steps
    steps ≠ [] ∧ m.alphas = [0.5, 1.0, 0.5] ∧ m.sizes = [6.0, 2.0, 2.0, 2.0] := by
  intro steps m
  have hsteps : steps ≠ [] := by simp [steps]
  have h := applyAll_tells_of_last 3 [0.125] [2.0, 7.0, 8.0, 9.0] hsteps
  have hlast : steps.getLast hsteps = (.ofList [1, 99], ⟨0.5, none⟩) := rfl
  rw [hlast] at h
  obtain ⟨-, -, halphas, hsizes, -⟩ := h
  exact ⟨hsteps, halphas.trans (by decide), hsizes.trans (by decide)⟩

end ScatterPick.MarkerStyles
