import ScatterPick.Geometry.Coordinate

/-!
# Pointer

The state of the pointer from frame to frame. A press can become a click as long as the pointer
stays close to where it went down and does not wait too long.
-/

namespace ScatterPick.Window

/-- A button of the pointer. -/
inductive PointerButton where
  | primary
  | secondary
  deriving DecidableEq, Repr

/-- Something that the pointer does. -/
inductive PointerAction where
  | move (place : Point Float32)
  | press (button : PointerButton) (place : Point Float32)
  | release (button : PointerButton) (place : Point Float32)
  /-- The pointer leaves the window. -/
  | leave

/-- A change of a button in a frame. -/
inductive ButtonChange where
  | pressed (button : PointerButton)
  /-- A release, which is a click if the press was short and at the same place. -/
  | released (button : PointerButton) (click : Bool)
  deriving DecidableEq, Repr

/-- Where and when a button went down. -/
structure PressStart where
  place : Point Float32
  /-- The time in milliseconds. -/
  time : Nat

/-- The state of the pointer. -/
structure Pointer where
  /-- The position, while the pointer is in the window. -/
  position : Option (Point Float32) := none
  /-- The position that this frame works with, which outlives the leaving of the pointer. -/
  anchor : Option (Point Float32) := none
  /-- How far the pointer moved in this frame. -/
  movement : Point Float32 := ⟨0.0, 0.0⟩
  start : Option PressStart := none
  /-- Whether the pointer went too far for a click since the press. -/
  strayed : Bool := false
  primaryDown : Bool := false
  secondaryDown : Bool := false
  /-- The changes of buttons in this frame, in order. -/
  changes : List ButtonChange := []

namespace Pointer

/-- The distance up to which a press can become a click. -/
def clickDistance : Float32 := 6.0

/-- The time up to which a press can become a click, in milliseconds. -/
def clickTime : Nat := 800

/-- Whether a button is down. -/
def anyDown (p : Pointer) : Bool := p.primaryDown || p.secondaryDown

/-- Whether a button went up in this frame. -/
def anyReleased (p : Pointer) : Bool :=
  p.changes.any fun
    | .released _ _ => true
    | .pressed _ => false

/-- Whether a button went down in this frame. -/
def anyPressed (p : Pointer) : Bool :=
  p.changes.any fun
    | .pressed _ => true
    | .released _ _ => false

/-- Whether a click happened in this frame. -/
def anyClick (p : Pointer) : Bool :=
  p.changes.any fun
    | .released _ click => click
    | .pressed _ => false

/-- Whether the primary button made a click in this frame. -/
def primaryClick (p : Pointer) : Bool := p.changes.contains (.released .primary true)

/-- Whether the primary button went down in this frame. -/
def primaryPressed (p : Pointer) : Bool := p.changes.contains (.pressed .primary)

/-- Whether the primary button went up in this frame. -/
def primaryReleased (p : Pointer) : Bool :=
  p.changes.contains (.released .primary true) || p.changes.contains (.released .primary false)

/-- Whether what a button does can be a click. -/
def canClick (p : Pointer) (now : Nat) : Bool :=
  (p.anyDown || p.anyReleased) && !p.strayed && p.start.all fun s => now - s.time ≤ clickTime

/-- Whether what the buttons do can only be dragging. -/
def isDragging (p : Pointer) (now : Nat) : Bool :=
  (p.anyDown || p.anyReleased) && !p.anyPressed && !p.canClick now && !p.anyClick

/-- Whether a button is down after a change. -/
def setDown (p : Pointer) (button : PointerButton) (down : Bool) : Pointer :=
  match button with
  | .primary => { p with primaryDown := down }
  | .secondary => { p with secondaryDown := down }

/-- Puts the pointer somewhere. -/
def moveTo (p : Pointer) (place : Point Float32) : Pointer :=
  { p with position := some place, anchor := some place }

/-- Whether a place is too far from the press for a click. -/
def strays (p : Pointer) (place : Point Float32) : Bool :=
  p.start.any fun s =>
    clickDistance < Coordinate.length (place.x - s.place.x) (place.y - s.place.y)

/-- The state after an action. -/
def act (now : Nat) (p : Pointer) : PointerAction → Pointer
  | .move place => { p.moveTo place with strayed := p.strayed || p.strays place }
  | .press button place =>
    { (p.moveTo place).setDown button true with
      start := some ⟨place, now⟩
      strayed := false
      changes := p.changes ++ [.pressed button] }
  | .release button place =>
    { (p.moveTo place).setDown button false with
      start := none
      changes := p.changes ++ [.released button (p.canClick now)] }
  | .leave => { p with position := none }

/-- The distance between two positions; none if one is missing. -/
def moved (old new : Option (Point Float32)) : Point Float32 :=
  match old, new with
  | some a, some b => ⟨b.x - a.x, b.y - a.y⟩
  | _, _ => ⟨0.0, 0.0⟩

/-- The state in a frame with some actions. -/
def next (p : Pointer) (now : Nat) (actions : List PointerAction) : Pointer :=
  let after := actions.foldl (act now) { p with anchor := p.position, changes := [] }
  { after with movement := moved p.position after.position }

end Pointer

end ScatterPick.Window
