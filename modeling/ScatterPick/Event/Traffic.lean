import ScatterPick.Event.Broadcast

/-!
# Traffic on a broadcast

Everything that can happen to a broadcast, as data, and runs as folds. Receivers are known by their
numbers; each of them takes its notices when it likes, one after the other or many at once.
-/

namespace ScatterPick.Broadcast

/-- The notices that wait for one receiver, oldest first. -/
def pending (b : Broadcast) (receiver : Nat) : List Notice :=
  (b.receivers[receiver]?.map (·.waiting)).getD []

/-- A receiver takes the oldest notices that wait for it, at most `count` of them. -/
def take (b : Broadcast) (receiver count : Nat) : Broadcast :=
  { b with
    receivers := b.receivers.modify receiver fun r => { r with waiting := r.waiting.drop count } }

/-- One thing that happens to a broadcast. -/
inductive Operation where
  | subscribe (mask : EventKind)
  /-- A receiver is given up. -/
  | drop (receiver : Nat)
  | take (receiver count : Nat)
  /-- Every receiver takes all that waits for it. -/
  | drain
  | emit (notice : Notice)
  deriving DecidableEq, Repr

/-- The broadcast after one operation. -/
def apply (b : Broadcast) : Operation → Broadcast
  | .subscribe mask => b.subscribe mask
  | .drop receiver => b.drop receiver
  | .take receiver count => b.take receiver count
  | .drain => b.drain
  | .emit notice => b.emit notice

/-- The broadcast after a sequence of operations. -/
def run (b : Broadcast) (ops : List Operation) : Broadcast := ops.foldl apply b

theorem run_append (b : Broadcast) (ops more : List Operation) :
    b.run (ops ++ more) = (b.run ops).run more := List.foldl_append

/-- What a receiver gets out of one operation. -/
def taken (b : Broadcast) (receiver : Nat) : Operation → List Notice
  | .take r count => if r = receiver then (b.pending receiver).take count else []
  | .drain => b.pending receiver
  | _ => []

end ScatterPick.Broadcast
