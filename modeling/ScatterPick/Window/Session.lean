import ScatterPick.Frame.Step
import ScatterPick.Window.Interaction
import ScatterPick.Window.Layout

/-!
# Sessions

A plot in its window: the controller with the pointer and what the last frame showed. Each frame
takes what happened since the frame before, half a second ago.
-/

namespace ScatterPick.Window

/-- Something that happens to a window. -/
inductive Input where
  | move (place : Place)
  | press (button : PointerButton)
  | release (button : PointerButton)
  | leave
  | key (name : String) (down : Bool)
  | close

/-- A plot in its window. -/
structure Session where
  controller : Controller Windowed
  pointer : Pointer := {}
  interaction : Interaction := {}
  /-- The last place of the pointer. -/
  place : Point Float32 := ⟨0.0, 0.0⟩
  /-- What the last frame showed. -/
  parts : Parts := []
  /-- The view that the plot shows. -/
  view : View Float := .initial
  /-- The time of the next frame in milliseconds. -/
  time : Nat := 0

namespace Session

/-- The time between two frames in milliseconds. -/
def interval : Nat := 500

/-- The actions of the pointer in some input, which starts at a place, and the last place. -/
def actions (s : Session) (inputs : List Input) : List PointerAction × Point Float32 :=
  inputs.foldl (fun (actions, place) input =>
    match input with
    | .move target =>
      let place := target.position s.view s.controller.hud
      (actions ++ [.move place], place)
    | .press button => (actions ++ [.press button place], place)
    | .release button => (actions ++ [.release button place], place)
    | .leave => (actions ++ [.leave], place)
    | _ => (actions, place)) ([], s.place)

/-- The strokes in some input; keys that no keyboard has make none. -/
def strokes (inputs : List Input) : List KeyStroke :=
  inputs.filterMap fun
    | .key name down => (NamedKey.ofName? name).map (⟨·, down⟩)
    | _ => none

/-- Whether the window is asked to close. -/
def closes (inputs : List Input) : Bool :=
  inputs.any fun
    | .close => true
    | _ => false

/-- The parts that a frame shows. -/
def shown (c : Controller Windowed) : Parts :=
  (.plot, frameRect c.hud.layout) ::
    c.shownButtons.map fun index => (.button index, buttonRect c.hud index)

/-- Where the pointer is in the plot. While the plot is dragged the movement of the frame does not
count yet. -/
def plotPlace (s : Session) : Option (Point Float) :=
  s.pointer.position.map fun p =>
    let movement := s.pointer.movement
    let p := if s.interaction.dragged = some .plot then ⟨p.x - movement.x, p.y - movement.y⟩ else p
    pointAt s.view s.controller.hud p

/-- The session that waits for the next frame. -/
def wait (s : Session) (inputs : List Input) : Session :=
  let (actions, place) := s.actions inputs
  let pointer := s.pointer.next s.time actions
  { s with pointer, place, interaction := s.interaction.next s.parts pointer s.time }

/-- What a frame is told. -/
def frameInput (s : Session) (inputs : List Input) (modifiers : Modifiers) : FrameInput where
  available := available
  frame := frameRect s.controller.hud.layout
  view := s.view
  pointer := s.pointer.position
  place := s.plotPlace
  pressed := s.pointer.primaryPressed
  down := s.pointer.primaryDown
  released := s.pointer.primaryReleased
  touches := (List.range s.controller.hud.buttons.length).map (s.interaction.touch s.pointer)
  modifiers := modifiers
  strokes := strokes inputs
  closing := closes inputs

/-- Passes a frame, which shows the painting of the controller before it. The plot shows the view
that it was asked to fit from the next frame on. -/
def frame (d : Decoders) (s : Session) (inputs : List Input) (modifiers : Modifiers) : Session :=
  let s := s.wait inputs
  { s with
    controller := s.controller.frame d (s.frameInput inputs modifiers)
    parts := shown s.controller
    view := (s.controller.painting.fit.map View.mended).getD s.view
    time := s.time + interval }

end Session

end ScatterPick.Window
