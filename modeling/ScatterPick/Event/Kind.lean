/-!
# Event kinds

A kind is a set of flags in a 64-bit mask. Its text lists the names of the known flags, then the
others as one hexadecimal number.
-/

namespace ScatterPick

/-- A set of event categories. -/
structure EventKind where
  bits : UInt64
  deriving DecidableEq, Repr

namespace EventKind

/-- The category with the given bit. -/
def flag (bit : Nat) : EventKind := ⟨UInt64.ofNat (Nat.pow 2 bit)⟩

/-- The pointer entered the plot area. -/
def pointerEnter : EventKind := flag 0

/-- The pointer left the plot area. -/
def pointerExit : EventKind := flag 1

/-- A key went down. -/
def keyDown : EventKind := flag 2

/-- A key was released. -/
def keyUp : EventKind := flag 3

/-- A click or lasso gesture finished. -/
def gesture : EventKind := flag 4

/-- A button was clicked. -/
def buttonClick : EventKind := flag 5

/-- The host is closing. -/
def close : EventKind := flag 6

/-- A gesture changed the selection. -/
def selectionChanged : EventKind := flag 16

/-- The selection was replaced by a call. -/
def selectionSet : EventKind := flag 17

/-- The heads-up strip became visible. -/
def hudShown : EventKind := flag 18

/-- The heads-up strip was hidden. -/
def hudHidden : EventKind := flag 19

/-- The callback of a button ran. -/
def buttonClicked : EventKind := flag 20

/-- The controller attached its listeners. -/
def connected : EventKind := flag 21

/-- The controller detached its listeners. -/
def disconnected : EventKind := flag 22

/-- The set without categories. -/
def empty : EventKind := ⟨0⟩

/-- Every category. -/
def all : EventKind := ⟨0xFFFFFFFFFFFFFFFF⟩

/-- The categories of either set. -/
def union (a b : EventKind) : EventKind := ⟨a.bits ||| b.bits⟩

/-- The categories of both sets. -/
def inter (a b : EventKind) : EventKind := ⟨a.bits &&& b.bits⟩

/-- Whether every category of `b` is one of `a`. -/
def contains (a b : EventKind) : Bool := a.bits &&& b.bits == b.bits

/-- Whether the sets share a category. -/
def intersects (a b : EventKind) : Bool := a.bits &&& b.bits != 0

/-- Whether there is no category. -/
def isEmpty (a : EventKind) : Bool := a.bits == 0

/-- The inbound categories that only a connected controller receives. -/
def interaction : EventKind :=
  pointerEnter.union pointerExit |>.union keyDown |>.union keyUp |>.union gesture
    |>.union buttonClick

/-- The known categories with their names, in the order of the text. -/
def names : List (EventKind × String) :=
  [(pointerEnter, "POINTER_ENTER"), (pointerExit, "POINTER_EXIT"), (keyDown, "KEY_DOWN"),
    (keyUp, "KEY_UP"), (gesture, "GESTURE"), (buttonClick, "BUTTON_CLICK"), (close, "CLOSE"),
    (selectionChanged, "SELECTION_CHANGED"), (selectionSet, "SELECTION_SET"),
    (hudShown, "HUD_SHOWN"), (hudHidden, "HUD_HIDDEN"), (buttonClicked, "BUTTON_CLICKED"),
    (connected, "CONNECTED"), (disconnected, "DISCONNECTED")]

/-- The known categories together. -/
def known : EventKind := names.foldl (fun k n => k.union n.1) empty

/-- The flags without a name. -/
def unnamed (a : EventKind) : UInt64 := a.bits &&& ~~~known.bits

/-- The names of the known categories in a set, then its other flags. -/
def parts (a : EventKind) : List String :=
  let named := (names.filter fun n => a.contains n.1).map (·.2)
  if a.unnamed == 0 then named
  else named ++ ["0x" ++ String.ofList (Nat.toDigits 16 a.unnamed.toNat)]

/-- The text of a set of categories. -/
def text (a : EventKind) : String :=
  if a.isEmpty then "EMPTY" else if a = all then "ALL" else "|".intercalate a.parts

end EventKind

end ScatterPick
