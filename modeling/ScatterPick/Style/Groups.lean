import ScatterPick.Geometry.Coordinate
import ScatterPick.Style.Marker

/-!
# Style groups

Points are drawn in groups of equal style. The groups stand in the order of the bit patterns of
opacity and size, and keep the points in index order, so every point is drawn once.
-/

namespace ScatterPick

/-- The bit patterns of opacity and size. -/
structure StyleKey where
  alpha : UInt32
  size : UInt32
  deriving DecidableEq, Repr

namespace StyleKey

/-- The order of the groups: by opacity, then by size. -/
def before (a b : StyleKey) : Bool := a.alpha < b.alpha || (a.alpha == b.alpha && a.size < b.size)

end StyleKey

/-- The points of one style. -/
structure StyleGroup where
  key : StyleKey
  points : List (Point Float)

namespace StyleGroup

/-- The opacity of a group. -/
def alpha (g : StyleGroup) : StyleEntry := ⟨g.key.alpha⟩

/-- The marker size of a group. -/
def size (g : StyleGroup) : StyleEntry := ⟨g.key.size⟩

end StyleGroup

/-- The entry of a point, or the first entry, or a default. -/
def entryOr (entries : List StyleEntry) (i : Nat) (fallback : StyleEntry) : StyleEntry :=
  entries[i]?.getD (entries.head?.getD fallback)

/-- The style of point `i` of a collection with marker radius `radius`. -/
def CanvasStyle.keyAt (style : CanvasStyle) (radius : Float32) (i : Nat) : StyleKey :=
  ⟨(entryOr style.alphas i 1.0).bits, (entryOr style.sizes i (.ofSingle (radius * radius))).bits⟩

/-- Puts a point at the end of its group; a new group goes to its place in the order. -/
def addToGroup (key : StyleKey) (p : Point Float) : List StyleGroup → List StyleGroup
  | [] => [⟨key, [p]⟩]
  | g :: rest =>
    if key = g.key then ⟨g.key, g.points ++ [p]⟩ :: rest
    else if key.before g.key then ⟨key, [p]⟩ :: g :: rest
    else g :: addToGroup key p rest

/-- Splits points into groups by style. -/
def groupByStyle (points : List (Point Float)) (style : CanvasStyle) (radius : Float32) :
    List StyleGroup :=
  points.zipIdx.foldl (fun groups p => addToGroup (style.keyAt radius p.2) p.1 groups) []

/-- The radius of a marker whose size is its area. -/
def radiusOfArea (area : Float32) : Float32 := (Coordinate.greater area 0.0).sqrt

end ScatterPick
