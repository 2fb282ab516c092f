import Mathlib.Data.List.Induction
import ScatterPick.Controller.Run

/-!
# Histories

A run leaves a history: every step together with the state in which it was taken. What a run does
is read off its history, and facts about runs are proved by one induction along it.
-/

namespace ScatterPick.Controller

variable {C : Type} [Canvas C]

/-- The event that comes through in a step: a dispatched event always does, one from the canvas if
a listener waits for it. -/
def arriving (c : Controller C) : Step → Option UserEvent
  | .dispatch event => some event
  | .handle event => if c.accepts event then some event else none
  | _ => none

/-- A handled event that comes through is dispatched, another one is without effect. -/
theorem handle_cases {P : Option UserEvent → Controller C → Prop} (c : Controller C)
    (event : UserEvent) (hignored : P none c) (hcomes : P (some event) (c.dispatch event)) :
    P (c.arriving (.handle event)) (c.step (.handle event)) := by
  rw [step, handle, arriving]
  split
  · exact hcomes
  · exact hignored

omit [Canvas C] in
theorem arriving_handle {c : Controller C} {event e : UserEvent}
    (h : c.arriving (.handle event) = some e) : e = event := by
  rw [arriving] at h
  split at h
  · exact (Option.some.inj h).symm
  · cases h

/-- The steps of a run, each with the state before it. -/
def history (c : Controller C) : List Step → List (Controller C × Step)
  | [] => []
  | s :: rest => (c, s) :: history (c.step s) rest

theorem run_append (c : Controller C) (steps more : List Step) :
    c.run (steps ++ more) = (c.run steps).run more := List.foldl_append

theorem run_concat (c : Controller C) (steps : List Step) (s : Step) :
    c.run (steps ++ [s]) = (c.run steps).step s := by
  simp [run]

theorem history_concat (c : Controller C) (steps : List Step) (s : Step) :
    c.history (steps ++ [s]) = c.history steps ++ [(c.run steps, s)] := by
  induction steps generalizing c with
  | nil => rfl
  | cons first rest ih =>
    rw [List.cons_append, history, ih, history, List.cons_append]
    rfl

/-- The last of some marks that the steps of a history leave. -/
def lastMark {α : Type} (mark : Controller C × Step → Option α)
    (past : List (Controller C × Step)) : Option α :=
  (past.filterMap mark).getLast?

omit [Canvas C] in
@[simp] theorem lastMark_nil {α : Type} (mark : Controller C × Step → Option α) :
    lastMark mark [] = none := rfl

omit [Canvas C] in
/-- A step leaves its own mark, or the one before. -/
theorem lastMark_concat {α : Type} (mark : Controller C × Step → Option α)
    (past : List (Controller C × Step)) (p : Controller C × Step) :
    lastMark mark (past ++ [p]) = (mark p).or (lastMark mark past) := by
  rw [lastMark, List.filterMap_append, List.getLast?_append, lastMark]
  cases h : mark p with
  | none => simp [h]
  | some m => simp [h]

/-- What holds at the start of a run, and is kept by every step that the run may take, holds of the
state that the run reaches with its history. -/
theorem run_induction {P : Controller C → List (Controller C × Step) → Prop}
    {allowed : Step → Prop} {start : Controller C} (hstart : P start [])
    (hstep : ∀ c past s, allowed s → P c past → P (c.step s) (past ++ [(c, s)]))
    {steps : List Step} (hall : ∀ s ∈ steps, allowed s) :
    P (start.run steps) (start.history steps) := by
  induction steps using List.reverseRecOn with
  | nil => exact hstart
  | append_singleton steps s ih =>
    rw [run_concat, history_concat]
    have hs : allowed s := hall s (by simp)
    exact hstep _ _ s hs (ih fun t ht => hall t (by simp [ht]))

/-- What holds at the start and is kept by every step holds throughout. -/
theorem run_invariant {P : Controller C → Prop} {start : Controller C} (hstart : P start)
    (hstep : ∀ c s, P c → P (c.step s)) (steps : List Step) : P (start.run steps) :=
  run_induction (P := fun c _ => P c) hstart
    (fun c _ s (_ : True) hc => hstep c s hc) (fun _ _ => trivial)

end ScatterPick.Controller
