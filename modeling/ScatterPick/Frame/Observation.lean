import ScatterPick.Canvas.Windowed
import ScatterPick.Frame.Input
import ScatterPick.Frame.Recorder

/-!
# Observing a frame

The canvas compares a frame with what it remembers of the last one, and turns each difference into
an event: the pointer came or went, the additive key changed, a gesture ended.
-/

namespace ScatterPick.Windowed

/-- Notes whether the pointer is over the plot. -/
def observePointer (inside : Bool) (w : Windowed) : Windowed × List UserEvent :=
  if inside = w.pointerInside then (w, [])
  else ({ w with pointerInside := inside }, [if inside then .pointerEnter else .pointerExit])

/-- Notes whether the additive key is held. -/
def observeKey (i : FrameInput) (key : Key) (w : Windowed) : Windowed × List UserEvent :=
  match KeyTracking.transition i.modifiers i.strokes key w.keyHeld with
  | none => (w, [])
  | some held => ({ w with keyHeld := held }, [KeyTracking.event key held])

/-- What a frame tells the recorder of trails. A press counts in the frame, beside the buttons, and
while gestures are waited for. -/
def recorderInput (i : FrameInput) (overButton : Bool) (w : Windowed) : Recorder.Input where
  accepted := i.pressed && i.inFrame && !overButton && Canvas.isListening w .gesture
  down := i.down
  released := i.released
  place := i.place

/-- Records the trail of a gesture. -/
def observeTrail (i : FrameInput) (overButton : Bool) (w : Windowed) :
    Windowed × List UserEvent :=
  let (trail, ended) := Recorder.step (recorderInput i overButton w) w.trail
  ({ w with trail }, (ended.map .gesture).toList)

/-- Notes everything that a frame tells, in order: view, pointer, key, trail and closing. -/
def observe (i : FrameInput) (layout : HudSettings) (key : Key) (overButton : Bool)
    (w : Windowed) : Windowed × List UserEvent :=
  let w := { w with view := i.view }
  let (w, pointer) := w.observePointer (i.inside layout)
  let (w, keys) := w.observeKey i key
  let (w, gestures) := w.observeTrail i overButton
  (w, pointer ++ keys ++ gestures ++ if i.closing then [.close] else [])

end ScatterPick.Windowed
