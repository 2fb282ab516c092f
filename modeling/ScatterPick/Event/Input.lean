import ScatterPick.Event.Key
import ScatterPick.Event.Kind
import ScatterPick.Geometry.Coordinate

/-!
# Inbound events

What a canvas reports to the controller.
-/

namespace ScatterPick

/-- An event delivered by a canvas. -/
inductive UserEvent where
  | pointerEnter
  | pointerExit
  | keyDown (key : Key)
  | keyUp (key : Key)
  /-- A finished gesture with its vertices from press to release. -/
  | gesture (vertices : List (Point Float))
  /-- A click on the button with the given index. -/
  | buttonClick (index : Nat)
  | close
  deriving DecidableEq

/-- The category of an event. -/
def UserEvent.kind : UserEvent → EventKind
  | pointerEnter => .pointerEnter
  | pointerExit => .pointerExit
  | keyDown _ => .keyDown
  | keyUp _ => .keyUp
  | gesture _ => .gesture
  | buttonClick _ => .buttonClick
  | close => .close

end ScatterPick
