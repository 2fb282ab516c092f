import ScatterPick.Selection
import ScatterPick.Style.Entry

/-!
# Marker styles

Opacity and marker size of every point. A canvas may hand over fewer entries than there are points,
often a single shared entry; they are widened by their first entry when a selection is first
shown. `apply` sets every entry anew, so only the last selection shows.
-/

namespace ScatterPick

/-- Marker size where no size was handed over. -/
def fallbackSize : StyleEntry := 3.0

/-- How a selection is drawn. -/
structure Emphasis where
  /-- Opacity of the points outside a selection that has members. -/
  alphaOther : StyleEntry
  /-- Size factor of selected points; nothing leaves sizes alone. -/
  expandSelected : Option Float32

/-- The styles of a collection of points. -/
structure MarkerStyles where
  pointCount : Nat
  alphas : List StyleEntry
  sizes : List StyleEntry
  /-- The size of every point before any selection. -/
  baseSize : StyleEntry
  deriving DecidableEq

namespace MarkerStyles

/-- Takes over the entries of a canvas. -/
def ofCanvas (pointCount : Nat) (alphas sizes : List StyleEntry) : MarkerStyles :=
  ⟨pointCount, alphas, sizes, sizes.head?.getD fallbackSize⟩

/-- Lengthens a list to `count` entries by its first entry. -/
def widen (entries : List StyleEntry) (count : Nat) (fallback : StyleEntry) : List StyleEntry :=
  entries ++ List.replicate (count - entries.length) (entries.head?.getD fallback)

/-- A list with one value at the selected places and another elsewhere. -/
def mark (count : Nat) (selection : Selection) (selected other : StyleEntry) : List StyleEntry :=
  (List.range count).map fun k => if selection.contains k then selected else other

/-- Sets every entry, so that the entries show the selection. -/
def apply (s : MarkerStyles) (selection : Selection) (params : Emphasis) : MarkerStyles :=
  let alphas := widen s.alphas s.pointCount 1.0
  let other := if selection.isEmpty then 1.0 else params.alphaOther
  let s := { s with alphas := mark alphas.length selection 1.0 other }
  match params.expandSelected with
  | none => s
  | some factor =>
    let sizes := widen s.sizes s.pointCount s.baseSize
    let expanded := StyleEntry.ofSingle (factor * s.baseSize.value)
    { s with sizes := mark sizes.length selection expanded s.baseSize }

end MarkerStyles

/-- The style of a collection as a canvas holds it. -/
structure CanvasStyle where
  alphas : List StyleEntry
  sizes : List StyleEntry
  deriving DecidableEq

end ScatterPick
