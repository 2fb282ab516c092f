import ScatterPick.Config.Settings
import ScatterPick.Style.Groups

/-!
# Markers

How the points of a group are painted. A group that would be invisible gets a colour of its own,
from a row of hues that are a golden section apart.
-/

namespace ScatterPick

/-- A circle of a point. -/
structure Marker where
  radius : Float32
  color : Pixel
  deriving DecidableEq

namespace Marker

/-- An opacity as a byte. -/
def opacity (alpha : Float32) : UInt8 :=
  let alpha := if alpha < 0.0 then 0.0 else if 1.0 < alpha then 1.0 else alpha
  (alpha * 255.0).round.toUInt8

/-- A light intensity as a byte, in the scale in which screens take it. -/
def screenByte (light : Float) : UInt8 :=
  if light ≤ 0.0031308 then (3294.6 * light + 0.5).toUInt8
  else (269.025 * light.pow (1.0 / 2.4) - 14.025 + 0.5).toUInt8

/-- The ratio of the golden section. -/
def golden : Float := 0.618033988749895

/-- The brightest channel of the spare colours. -/
def brightness : Float := 0.5

/-- How far the darkest channel of the spare colours is from the brightest. -/
def saturation : Float := 0.85

/-- The spare colour with a number: its hue walks round the circle in golden sections. -/
def spare (number : Nat) : Pixel :=
  let turn := Float.ofNat number * golden
  let sixth := (turn - turn.floor) * 6.0
  let part := sixth - sixth.floor
  let dark := screenByte (brightness * (1.0 - saturation))
  let falling := screenByte (brightness * (1.0 - part * saturation))
  let rising := screenByte (brightness * (1.0 - (1.0 - part) * saturation))
  let bright := screenByte brightness
  match sixth.floor.toUInt8.toNat % 6 with
  | 0 => ⟨bright, rising, dark, 255⟩
  | 1 => ⟨falling, bright, dark, 255⟩
  | 2 => ⟨dark, bright, rising, 255⟩
  | 3 => ⟨dark, falling, bright, 255⟩
  | 4 => ⟨rising, dark, bright, 255⟩
  | _ => ⟨bright, dark, falling, 255⟩

/-- The colour of a group, where `spares` spare colours are used up. -/
def colorOf (look : MarkerLook) (spares : Nat) (alpha : Float32) : Pixel :=
  let a := opacity alpha
  if a = 0 then spare spares else look.color.pixel a

end Marker

/-- A run of equal markers. -/
structure MarkerRun where
  marker : Marker
  count : Nat
  deriving DecidableEq

namespace MarkerRun

/-- The run of a group, where `spares` spare colours are used up. -/
def ofGroup (look : MarkerLook) (spares : Nat) (g : StyleGroup) : MarkerRun :=
  ⟨⟨radiusOfArea g.size.value, Marker.colorOf look spares g.alpha.value⟩, g.points.length⟩

/-- The runs of some groups, one each. -/
def ofGroups (look : MarkerLook) : Nat → List StyleGroup → List MarkerRun
  | _, [] => []
  | spares, g :: rest =>
    let used := if Marker.opacity g.alpha.value = 0 then spares + 1 else spares
    ofGroup look spares g :: ofGroups look used rest

/-- Joins neighbouring runs of one marker. -/
def join : List MarkerRun → List MarkerRun
  | [] => []
  | r :: rest =>
    match join rest with
    | next :: rest =>
      if r.marker = next.marker then ⟨r.marker, r.count + next.count⟩ :: rest
      else r :: next :: rest
    | [] => [r]

end MarkerRun

end ScatterPick
