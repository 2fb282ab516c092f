import ScatterPick.Frame.Input
import ScatterPick.Window.Pointer

/-!
# Interaction

Which part of the window the pointer works on. The plot takes clicks and drags, a button takes
clicks; a press binds both to the parts under the pointer until the release. While something is
clicked or dragged nothing else is hovered, and while a button of the pointer is down only the
parts that it is bound to.
-/

namespace ScatterPick.Window

/-- A part of the window that takes input. -/
inductive Part where
  | plot
  | button (index : Nat)
  deriving DecidableEq, Repr

/-- The parts of a frame with their rectangles, from back to front. -/
abbrev Parts := List (Part × ScreenRect Float32)

namespace Parts

/-- Whether a part was shown. -/
def shows (parts : Parts) (part : Part) : Bool := parts.any (·.1 == part)

/-- The parts under a position, the front one first. -/
def under (parts : Parts) (p : Point Float32) : List Part :=
  (parts.filter fun part => part.2.contains p).reverse.map (·.1)

end Parts

/-- What the pointer is bound to. -/
structure Interaction where
  /-- The part that a release can click. -/
  clickable : Option Part := none
  /-- The part that a movement can drag. -/
  draggable : Option Part := none
  /-- The part that is being dragged. -/
  dragged : Option Part := none
  /-- The part that was clicked in this frame. -/
  clicked : Option Part := none
  /-- The parts that are hovered in this frame. -/
  hovered : List Part := []

namespace Interaction

/-- The part that a click at a position would reach. -/
def clickTarget (parts : Parts) (anchor : Option (Point Float32)) : Option Part :=
  anchor.bind fun p => (parts.under p).head?

/-- The part that a drag from a position would reach. -/
def dragTarget (parts : Parts) (anchor : Option (Point Float32)) : Option Part :=
  anchor.bind fun p => (parts.under p).find? (· == .plot)

/-- The state after a change of a button, with the parts under the pointer. -/
def react (click drag : Option Part) (s : Interaction) : ButtonChange → Interaction
  | .pressed _ => { s with clickable := s.clickable.or click, draggable := s.draggable.or drag }
  | .released _ clicks =>
    { s with
      clicked := if clicks then s.clickable.or s.clicked else s.clicked
      clickable := none
      draggable := none
      dragged := none }

/-- Starts dragging once the pointer can do nothing else. -/
def startDrag (p : Pointer) (now : Nat) (s : Interaction) : Interaction :=
  { s with dragged := s.dragged.or (if p.isDragging now then s.draggable else none) }

/-- Gives up what can no longer happen. -/
def release (p : Pointer) (now : Nat) (s : Interaction) : Interaction :=
  let s := if p.canClick now then s else { s with clickable := none }
  if p.anyDown && p.position.isSome then s else { s with clickable := none, draggable := none }

/-- The hovered parts, with the parts under the pointer. -/
def hover (click drag : Option Part) (s : Interaction) : Interaction :=
  let active := s.clicked.toList ++ s.dragged.toList
  { s with hovered := if active.isEmpty then click.toList ++ drag.toList else active }

/-- The state in a frame; the parts are those of the frame before. -/
def next (s : Interaction) (parts : Parts) (p : Pointer) (now : Nat) : Interaction :=
  let click := clickTarget parts p.anchor
  let drag := dragTarget parts p.anchor
  let s := { s with clickable := s.clickable.filter parts.shows, clicked := none }
  hover click drag (release p now (startDrag p now (p.changes.foldl (react click drag) s)))

/-- Whether the pointer is bound to a part. -/
def isBound (s : Interaction) (part : Part) : Bool :=
  s.clickable == some part || s.draggable == some part || s.clicked == some part

/-- What the pointer does to a button of the strip. -/
def touch (s : Interaction) (p : Pointer) (index : Nat) : ButtonTouch where
  hovered := s.hovered.contains (.button index) && (!p.anyDown || s.isBound (.button index))
  clicked := s.clicked == some (.button index) && p.primaryClick

end Interaction

end ScatterPick.Window
