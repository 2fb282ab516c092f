import ScatterPick.Event.Kind

/-!
# Listener registry

The listeners of a canvas. Ids count upwards and are never reused, so a removal concerns at most
the listener that got the id before.
-/

namespace ScatterPick

/-- An attached listener. -/
structure Listener where
  id : Nat
  kind : EventKind
  deriving DecidableEq, Repr

/-- The listeners of a canvas in the order of their ids. -/
structure Listeners where
  live : List Listener
  /-- The id of the next listener. -/
  next : Nat
  deriving DecidableEq, Repr

namespace Listeners

/-- The registry without listeners. -/
def empty : Listeners := ⟨[], 0⟩

/-- Attaches a listener; its id is `l.next`. -/
def add (l : Listeners) (kind : EventKind) : Listeners := ⟨l.live ++ [⟨l.next, kind⟩], l.next + 1⟩

/-- Detaches a listener; an unknown id is ignored. -/
def remove (l : Listeners) (id : Nat) : Listeners := { l with live := l.live.filter (·.id != id) }

/-- The number of attached listeners. -/
def size (l : Listeners) : Nat := l.live.length

/-- Whether no listener is attached. -/
def isEmpty (l : Listeners) : Bool := l.live.isEmpty

/-- Whether an attached listener shares a category with `kind`. -/
def isListening (l : Listeners) (kind : EventKind) : Bool := l.live.any (·.kind.intersects kind)

end Listeners

end ScatterPick
