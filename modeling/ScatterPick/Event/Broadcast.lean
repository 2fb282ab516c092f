import ScatterPick.Event.Kind

/-!
# Broadcasting

Notices go to every subscriber whose mask shares a category with them. A subscriber whose receiver
is gone leaves the list when a notice that matches its mask fails to reach it.
-/

namespace ScatterPick

/-- A notification of the controller. -/
structure Notice where
  kinds : EventKind
  /-- The selection after a change. -/
  selection : Option (List Nat) := none
  /-- The label of a clicked button. -/
  button : Option String := none
  deriving DecidableEq, Repr

/-- The receiving end of a subscription. -/
structure Receiver where
  alive : Bool
  /-- Notices that wait to be taken, oldest first. -/
  waiting : List Notice
  deriving DecidableEq, Repr

/-- An entry of the subscriber list. -/
structure Subscriber where
  mask : EventKind
  /-- The number of the receiver. -/
  receiver : Nat
  deriving DecidableEq, Repr

/-- The subscriber list and all receivers ever handed out. -/
structure Broadcast where
  subscribers : List Subscriber
  receivers : List Receiver
  deriving DecidableEq, Repr

/-- Whether a mask lets a notice through. -/
def EventKind.accepts (mask : EventKind) (n : Notice) : Bool := n.kinds.intersects mask

namespace Broadcast

/-- The broadcast without subscribers. -/
def empty : Broadcast := ⟨[], []⟩

/-- Adds a subscriber; its receiver gets the next number. -/
def subscribe (b : Broadcast) (mask : EventKind) : Broadcast :=
  ⟨b.subscribers ++ [⟨mask, b.receivers.length⟩], b.receivers ++ [⟨true, []⟩]⟩

/-- Gives up a receiver. -/
def drop (b : Broadcast) (receiver : Nat) : Broadcast :=
  { b with receivers := b.receivers.modify receiver fun _ => ⟨false, []⟩ }

/-- Whether a receiver is there to take notices. -/
def isAlive (b : Broadcast) (receiver : Nat) : Bool :=
  (b.receivers[receiver]?.map (·.alive)).getD false

/-- Hands a notice to one subscriber. -/
def deliver (n : Notice) (receivers : List Receiver) (s : Subscriber) : List Receiver :=
  if s.mask.accepts n then
    receivers.modify s.receiver fun r =>
      if r.alive then { r with waiting := r.waiting ++ [n] } else r
  else receivers

/-- Sends a notice to the subscribers it matches, and forgets those it could not reach. -/
def emit (b : Broadcast) (n : Notice) : Broadcast :=
  { subscribers := b.subscribers.filter fun s => !s.mask.accepts n || b.isAlive s.receiver
    receivers := b.subscribers.foldl (deliver n) b.receivers }

/-- The notices that wait, per receiver; nothing for one that is gone. -/
def waiting (b : Broadcast) : List (Option (List Notice)) :=
  b.receivers.map fun r => if r.alive then some r.waiting else none

/-- Takes all waiting notices. -/
def drain (b : Broadcast) : Broadcast :=
  { b with receivers := b.receivers.map fun r => { r with waiting := [] } }

/-- The number of entries of the subscriber list. -/
def count (b : Broadcast) : Nat := b.subscribers.length

/-- The summary of a broadcast. -/
def summary (b : Broadcast) : String :=
  "EventController \x7b subscribers: " ++ toString b.count ++ " \x7d"

end Broadcast

end ScatterPick
