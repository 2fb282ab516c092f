import ScatterPick.Event.Key
import ScatterPick.Geometry.Trail
import ScatterPick.Image.Failure
import ScatterPick.Number.Notation
import ScatterPick.Text.Quoted

/-!
# Log

What the program logs, as data. `text` is the only place with the wording.
-/

namespace ScatterPick

/-- The importance of a log entry. -/
inductive LogLevel where
  | debug
  | info
  | warn
  | error
  deriving DecidableEq, Repr

/-- The name of a level. -/
def LogLevel.name : LogLevel → String
  | debug => "DEBUG"
  | info => "INFO"
  | warn => "WARN"
  | error => "ERROR"

/-- A log entry. -/
inductive LogEntry where
  | alphaClamped (given used : Float32)
  | toleranceReset (given : Float)
  | expansionDisabled (given : Float32)
  | connected (points buttons : Nat)
  | disconnected
  | indicesIgnored (count points : Nat)
  | buttonRegistered (label : String)
  | buttonClicked (label : String)
  | buttonUnknown (index : Nat)
  | hudShown (title : String)
  | hudHidden
  | additiveKeyDown (key : Key)
  | gestureRead (kind : GestureKind) (vertices hits before after : Nat)
  | iconFailed (index : Nat) (cause : ImageFailure)
  deriving DecidableEq

/-- The name of a gesture kind in a log entry. -/
def GestureKind.logName : GestureKind → String
  | click => "Click"
  | drag => "Drag"

namespace LogEntry

/-- The importance of an entry. -/
def level : LogEntry → LogLevel
  | alphaClamped .. | toleranceReset _ | expansionDisabled _ | indicesIgnored .. => .warn
  | buttonUnknown _ => .warn
  | connected .. | disconnected | buttonClicked _ => .info
  | buttonRegistered _ | hudShown _ | hudHidden | additiveKeyDown _ | gestureRead .. => .debug
  | iconFailed .. => .error

/-- The wording of an entry. -/
def text : LogEntry → String
  | alphaClamped given used =>
    let given := Number.Style.log.single given
    let used := Number.Style.log.single used
    s!"alpha_other {given} out of [0, 1], using {used}"
  | toleranceReset given =>
    let given := Number.Style.log.double given
    s!"click_tolerance {given} is invalid, using 0"
  | expansionDisabled given =>
    let given := Number.Style.log.single given
    s!"expand_selected {given} is invalid, disabling size expansion"
  | connected points buttons =>
    s!"selection controller connected ({points} points, {buttons} buttons)"
  | disconnected => "selection controller disconnected"
  | indicesIgnored count points =>
    s!"ignoring {count} selection index(es) outside 0..{points}"
  | buttonRegistered label => "registered HUD button " ++ Text.quoted label
  | buttonClicked label => "HUD button " ++ Text.quoted label ++ " clicked"
  | buttonUnknown index => s!"click on unknown HUD button {index}"
  | hudShown title => "HUD shown (" ++ Text.quoted title ++ ")"
  | hudHidden => "HUD hidden"
  | additiveKeyDown key => "additive key " ++ key.text ++ " down"
  | gestureRead kind vertices hits before after =>
    let kind := kind.logName
    s!"{kind} over {vertices} vertices hit {hits} point(s); selection {before} -> {after}"
  | iconFailed index cause =>
    let cause := cause.message
    s!"Failed to load icon for HUD button {index}: {cause}"

/-- The level and the wording of an entry. -/
def line (e : LogEntry) : String := e.level.name ++ " " ++ e.text

end LogEntry

end ScatterPick
