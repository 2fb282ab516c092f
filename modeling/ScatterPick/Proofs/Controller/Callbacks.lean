import ScatterPick.Proofs.Controller.History
import ScatterPick.Proofs.Controller.Operations

/-!
# When callbacks run

Selection callbacks run on behalf of gestures that come through and lead to another selection, and
for no other reason. The calls of a run are therefore those that the steps of its history ask for.
-/

namespace ScatterPick

/-- The calls of selection callbacks among some effects: who was called with which indices. -/
def callbackCalls (effects : List Effect) : List (Nat × List Nat) :=
  effects.filterMap fun
    | .selectionCallback number selected => some (number, selected)
    | _ => none

theorem callbackCalls_append (effects more : List Effect) :
    callbackCalls (effects ++ more) = callbackCalls effects ++ callbackCalls more :=
  List.filterMap_append

@[simp] theorem callbackCalls_logged (entry : LogEntry) :
    callbackCalls [.logged entry] = [] := rfl

namespace Controller

variable {C : Type}

/-- The calls of selection callbacks so far. -/
def called (c : Controller C) : List (Nat × List Nat) := callbackCalls c.trace

/-- A call of every registered callback in the order of registration, with one list. -/
def callsOf (c : Controller C) (indices : List Nat) : List (Nat × List Nat) :=
  (List.range c.callbacks).map fun number => (number, indices)

@[simp] theorem callbackCalls_sent (c : Controller C) (n : Notice) :
    callbackCalls (c.sent n) = [] := by
  unfold sent
  split
  · rfl
  · rfl

/-- `c'` comes from `c` by making some calls and registering nobody. -/
structure Calls (c : Controller C) (due : List (Nat × List Nat)) (c' : Controller C) : Prop where
  callbacks : c'.callbacks = c.callbacks
  called : c'.called = c.called ++ due

namespace Calls

/-- An operation that appends effects without a call makes none. -/
theorem of_quiet {c c' : Controller C} {effects : List Effect}
    (hcallbacks : c'.callbacks = c.callbacks) (htrace : c'.trace = c.trace ++ effects)
    (hquiet : callbackCalls effects = []) : Calls c [] c' := by
  refine ⟨hcallbacks, ?_⟩
  rw [Controller.called, htrace, callbackCalls_append, hquiet]
  rfl

/-- An operation that leaves the trace alone makes no call. -/
theorem of_silent {c c' : Controller C} (hcallbacks : c'.callbacks = c.callbacks)
    (htrace : c'.trace = c.trace) : Calls c [] c' :=
  of_quiet hcallbacks (htrace.trans (List.append_nil _).symm) rfl

/-- Neither the log nor a notice is a call. -/
theorem of_told {c c' : Controller C} {entry : LogEntry} {n : Notice}
    (hcallbacks : c'.callbacks = c.callbacks)
    (htrace : c'.trace = c.trace ++ [.logged entry] ++ c.sent n) : Calls c [] c' := by
  refine of_quiet hcallbacks (htrace.trans (List.append_assoc ..)) ?_
  rw [callbackCalls_append, callbackCalls_logged, callbackCalls_sent]
  rfl

theorem refl (c : Controller C) : Calls c [] c := of_silent rfl rfl

theorem trans {c c' c'' : Controller C} {due more : List (Nat × List Nat)} (h : Calls c due c')
    (h' : Calls c' more c'') : Calls c (due ++ more) c'' := by
  refine ⟨h'.callbacks.trans h.callbacks, ?_⟩
  rw [h'.called, h.called, List.append_assoc]

end Calls

variable [Canvas C]

/-- The calls on behalf of an event that comes through. -/
def dueBy (c : Controller C) : UserEvent → List (Nat × List Nat)
  | .gesture vertices =>
    if c.merged vertices = c.selection then [] else c.callsOf (c.merged vertices).indices
  | _ => []

/-- The calls on behalf of a step. -/
def due (c : Controller C) (s : Step) : List (Nat × List Nat) := (c.arriving s).elim [] c.dueBy

/-! ## Operations -/

/-- Selecting by the host program calls nobody. -/
theorem calls_select (c : Controller C) (indices : List Nat) : Calls c [] (c.select indices) := by
  rw [select_eq]
  refine .of_quiet rfl (List.append_assoc ..) ?_
  rw [callbackCalls_append, callbackCalls_sent, List.append_nil]
  split
  · rfl
  · rfl

end Controller

end ScatterPick
