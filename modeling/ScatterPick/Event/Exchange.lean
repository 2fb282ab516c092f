import ScatterPick.Event.Traffic

/-!
# Handles on broadcasts

Broadcasts are reached through handles. A handle is a reference: its copy leads to the same
broadcast, so that a program keeps one and gives another away.
-/

namespace ScatterPick

/-- Broadcasts and the handles on them. -/
structure Exchange where
  broadcasts : List Broadcast
  /-- The place of the broadcast that each handle leads to. -/
  handles : List Nat
  deriving DecidableEq, Repr

namespace Exchange

/-- The exchange without broadcasts. -/
def empty : Exchange := ⟨[], []⟩

/-- One thing that happens on an exchange. -/
inductive Action where
  /-- A broadcast is made, with its first handle. -/
  | create
  | clone (handle : Nat)
  /-- An operation on the broadcast that a handle leads to. -/
  | through (handle : Nat) (operation : Broadcast.Operation)
  deriving DecidableEq, Repr

/-- The exchange after one action. -/
def act (x : Exchange) : Action → Exchange
  | .create => ⟨x.broadcasts ++ [.empty], x.handles ++ [x.broadcasts.length]⟩
  | .clone handle => { x with handles := x.handles ++ x.handles[handle]?.toList }
  | .through handle operation =>
    match x.handles[handle]? with
    | none => x
    | some place => { x with broadcasts := x.broadcasts.modify place (·.apply operation) }

/-- The exchange after a sequence of actions. -/
def run (x : Exchange) (actions : List Action) : Exchange := actions.foldl act x

/-- The broadcast at a place, without subscribers if there is none. -/
def broadcast (x : Exchange) (place : Nat) : Broadcast := x.broadcasts[place]?.getD .empty

end Exchange

end ScatterPick
