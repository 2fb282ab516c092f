import ScatterPick.Proofs.Selection.Members
import ScatterPick.Style.Marker

/-!
# Shown selections

Applying a selection sets every entry of the buffers by a rule that looks at the selection and the
length of the buffers alone. From the buffers of a canvas, however few entries they have, it
therefore always leads to the same picture, whatever was applied before.
-/

namespace ScatterPick

namespace MarkerStyles

@[simp] theorem length_widen (entries : List StyleEntry) (count : Nat) (fallback : StyleEntry) :
    (widen entries count fallback).length = max count entries.length := by
  simp only [widen, List.length_append, List.length_replicate]
  omega

/-- Marking by binary search is marking by membership. -/
theorem mark_eq (count : Nat) (s : Selection) (selected other : StyleEntry) :
    mark count s selected other =
      (List.range count).map fun k => if k ∈ s.indices then selected else other := by
  simp only [mark, Selection.contains_iff]

/-- The opacity of point `k` while a selection is shown. -/
def alphaAt (e : Emphasis) (s : Selection) (k : Nat) : StyleEntry :=
  if s.indices = [] ∨ k ∈ s.indices then 1.0 else e.alphaOther

/-- The size of point `k` while a selection is shown with a size factor. -/
def sizeAt (factor : Float32) (base : StyleEntry) (s : Selection) (k : Nat) : StyleEntry :=
  if k ∈ s.indices then .ofSingle (factor * base.value) else base

/-- Applying sets every opacity anew, and every size if there is a factor. -/
theorem apply_eq (m : MarkerStyles) (s : Selection) (e : Emphasis) :
    m.apply s e = { m with
      alphas := (List.range (max m.pointCount m.alphas.length)).map (alphaAt e s)
      sizes := e.expandSelected.elim m.sizes fun factor =>
        (List.range (max m.pointCount m.sizes.length)).map (sizeAt factor m.baseSize s) } := by
  have halpha : (fun k => if k ∈ s.indices then (1.0 : StyleEntry)
      else if s.isEmpty then 1.0 else e.alphaOther) = alphaAt e s := by
    funext k
    by_cases hs : s.indices = []
    · simp [alphaAt, hs]
    · simp [alphaAt, hs]
  cases hfactor : e.expandSelected with
  | none => simp only [apply, hfactor, mark_eq, length_widen, halpha, Option.elim_none]
  | some factor =>
    simp only [apply, hfactor, mark_eq, length_widen, halpha, Option.elim_some]
    rfl

/-- The buffers have grown out of those of a canvas without losing the number of points, the base
size or entries beyond the points. -/
structure Grown (points : Nat) (start : CanvasStyle) (e : Emphasis) (m : MarkerStyles) : Prop where
  pointCount : m.pointCount = points
  baseSize : m.baseSize = start.sizes.head?.getD fallbackSize
  alphas : max points m.alphas.length = max points start.alphas.length
  /-- Sizes are never written without a factor. -/
  sizes_kept : e.expandSelected = none → m.sizes = start.sizes
  sizes : max points m.sizes.length = max points start.sizes.length

theorem grown_ofCanvas (points : Nat) (start : CanvasStyle) (e : Emphasis) :
    Grown points start e (ofCanvas points start.alphas start.sizes) :=
  ⟨rfl, rfl, rfl, fun _ => rfl, rfl⟩

/-- Applying a selection keeps the buffers grown. -/
theorem Grown.apply {points : Nat} {start : CanvasStyle} {e : Emphasis} {m : MarkerStyles}
    (h : Grown points start e m) (s : Selection) : Grown points start e (m.apply s e) := by
  have halphas := h.alphas
  have hsizes := h.sizes
  rw [apply_eq]
  refine ⟨h.pointCount, h.baseSize, ?_, ?_, ?_⟩
  · simp only [List.length_map, List.length_range, h.pointCount]
    omega
  · intro hnone
    rw [hnone, Option.elim_none, h.sizes_kept hnone]
  · cases hfactor : e.expandSelected with
    | none => exact hsizes
    | some factor =>
      simp only [Option.elim_some, List.length_map, List.length_range, h.pointCount]
      omega

/-- A selection leads from grown buffers to the same ones as from those of the canvas. -/
theorem Grown.apply_eq_first {points : Nat} {start : CanvasStyle} {e : Emphasis}
    {m : MarkerStyles} (h : Grown points start e m) (s : Selection) :
    m.apply s e = (ofCanvas points start.alphas start.sizes).apply s e := by
  rw [apply_eq, apply_eq, h.pointCount, h.baseSize, h.alphas, h.sizes]
  cases hfactor : e.expandSelected with
  | none =>
    rw [Option.elim_none, h.sizes_kept hfactor]
    rfl
  | some factor => rfl

end MarkerStyles

namespace CanvasStyle

open MarkerStyles

/-- The picture of a selection over the buffers that a canvas started with: one opacity for each
point and each entry at the start, the sizes of the start without a size factor, and otherwise one
size for each point and each entry at the start, a multiple of the first one. -/
def showing (points : Nat) (start : CanvasStyle) (e : Emphasis) (s : Selection) : CanvasStyle where
  alphas := (List.range (max points start.alphas.length)).map (alphaAt e s)
  sizes := e.expandSelected.elim start.sizes fun factor =>
    (List.range (max points start.sizes.length)).map
      (sizeAt factor (start.sizes.head?.getD fallbackSize) s)

/-- Grown buffers show a selection as if it were the first. -/
theorem apply_eq_showing {points : Nat} {start : CanvasStyle} {e : Emphasis} {m : MarkerStyles}
    (h : Grown points start e m) (s : Selection) :
    (⟨(m.apply s e).alphas, (m.apply s e).sizes⟩ : CanvasStyle) = showing points start e s := by
  rw [h.apply_eq_first, apply_eq]
  rfl

end CanvasStyle

end ScatterPick
