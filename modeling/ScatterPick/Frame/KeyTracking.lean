import ScatterPick.Event.Input
import ScatterPick.Frame.NamedKey

/-!
# Key tracking

Whether the additive key is held, from frame to frame. Modifiers are told as they are; any other
key is known only from the strokes of each frame, of which a press outweighs a release.
-/

namespace ScatterPick

/-- The modifiers held in a frame. -/
structure Modifiers where
  shift : Bool := false
  ctrl : Bool := false
  /-- The key that takes the place of `ctrl` on some keyboards. -/
  command : Bool := false
  alt : Bool := false
  deriving DecidableEq, Repr

/-- A key that went down or up. -/
structure KeyStroke where
  key : NamedKey
  down : Bool
  deriving DecidableEq, Repr

namespace Modifiers

/-- Whether a modifier is held; other keys are none. -/
def held? (m : Modifiers) : Key → Option Bool
  | .shift => some m.shift
  | .ctrl => some (m.ctrl || m.command)
  | .alt => some m.alt
  | .other _ => none

end Modifiers

namespace KeyTracking

/-- Whether a key is held after the strokes of a frame. -/
def afterStrokes (strokes : List KeyStroke) (key : NamedKey) (before : Bool) : Bool :=
  if strokes.contains ⟨key, true⟩ then true
  else if strokes.contains ⟨key, false⟩ then false
  else before

/-- Whether a key is held in a frame; nothing for a key that the keyboard does not have. -/
def held? (m : Modifiers) (strokes : List KeyStroke) (key : Key) (before : Bool) : Option Bool :=
  match m.held? key, key with
  | some held, _ => some held
  | none, .other name => (NamedKey.ofName? name).map fun k => afterStrokes strokes k before
  | none, _ => none

/-- The new state of a key, if it changed. -/
def transition (m : Modifiers) (strokes : List KeyStroke) (key : Key) (before : Bool) :
    Option Bool :=
  (held? m strokes key before).filter (· != before)

/-- The event of a change. -/
def event (key : Key) (held : Bool) : UserEvent := if held then .keyDown key else .keyUp key

end KeyTracking

end ScatterPick
