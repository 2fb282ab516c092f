import ScatterPick.Proofs.Controller.Callbacks
import ScatterPick.Proofs.Controller.Display
import ScatterPick.Proofs.Controller.Mode

/-!
# Gestures from the canvas to the subscribers

A gesture on a connected controller replaces the set of selected points or toggles the points that
it hit. Either nothing changes but the trail on the screen, or the new set is shown, handed to every
callback and announced, in this order and once each.
-/

namespace ScatterPick.Controller

variable {C : Type} [Canvas C]

/-- A connected controller dispatches every gesture. -/
theorem handle_gesture {c : Controller C} (hmode : c.mode.AllOrNone) (hc : c.isConnected = true)
    (vertices : List (Point Float)) :
    c.handle (.gesture vertices) = c.gestureFinished vertices := by
  have haccepts : c.accepts (.gesture vertices) = true := (accepts_iff hmode _).mpr (Or.inl hc)
  rw [handle, if_pos haccepts]
  rfl

end ScatterPick.Controller
