import ScatterPick.Event.Exchange

/-!
# What reaches a broadcast

A broadcast goes through the operations that are issued to it, in the order of issuing, no matter
through which of its handles and no matter what happens to other broadcasts.
-/

namespace ScatterPick.Exchange

open Broadcast (Operation)

/-- The operation that an action issues to the broadcast at a place. -/
def issued (x : Exchange) (place : Nat) : Action → Option Operation
  | .through handle operation =>
    if x.handles[handle]? = some place then some operation else none
  | _ => none

/-- The operations that a sequence of actions issues to the broadcast at a place. -/
def traffic (x : Exchange) (place : Nat) : List Action → List Operation
  | [] => []
  | a :: rest => (x.issued place a).toList ++ (x.act a).traffic place rest

/-- Every handle leads to a broadcast. -/
def Connected (x : Exchange) : Prop := ∀ place ∈ x.handles, place < x.broadcasts.length

theorem Connected.act {x : Exchange} (h : x.Connected) (a : Action) : (x.act a).Connected := by
  intro place hplace
  cases a with
  | create =>
    have hlength : (x.act .create).broadcasts.length = x.broadcasts.length + 1 :=
      List.length_append
    rw [hlength]
    rcases List.mem_append.mp hplace with hold | hnew
    · exact Nat.lt_succ_of_lt (h place hold)
    · rw [List.mem_singleton.mp hnew]
      exact Nat.lt_succ_self _
  | clone handle =>
    rcases List.mem_append.mp hplace with hold | hnew
    · exact h place hold
    · exact h place (List.mem_of_getElem? (Option.mem_toList.mp hnew))
  | through handle operation =>
    simp only [Exchange.act] at hplace ⊢
    split at hplace
    · exact h place hplace
    · rw [List.length_modify]
      exact h place hplace

/-- A broadcast is changed by the operation issued to it, and by nothing else. -/
theorem broadcast_act {x : Exchange} (h : x.Connected) (a : Action) (place : Nat) :
    (x.act a).broadcast place = (x.broadcast place).run (x.issued place a).toList := by
  cases a with
  | create =>
    simp only [broadcast, Exchange.act, issued, Option.toList_none, Broadcast.run, List.foldl_nil]
    rcases Nat.lt_trichotomy place x.broadcasts.length with hplace | rfl | hplace
    · rw [List.getElem?_append_left hplace]
    · simp
    · have hmore : (x.broadcasts ++ [Broadcast.empty]).length ≤ place := by
        rw [List.length_append, List.length_singleton]
        exact hplace
      rw [List.getElem?_eq_none hmore, List.getElem?_eq_none (Nat.le_of_lt hplace)]
  | clone handle => rfl
  | through handle operation =>
    simp only [Exchange.act, issued]
    cases hhandle : x.handles[handle]? with
    | none => rfl
    | some other =>
      have hother : other < x.broadcasts.length := h other (List.mem_of_getElem? hhandle)
      by_cases hplace : other = place
      · subst hplace
        simp [broadcast, hother, Broadcast.run]
      · simp [broadcast, hplace, Broadcast.run]

theorem broadcast_run {x : Exchange} (h : x.Connected) (actions : List Action) (place : Nat) :
    (x.run actions).broadcast place = (x.broadcast place).run (x.traffic place actions) := by
  induction actions generalizing x with
  | nil => rfl
  | cons a rest ih =>
    rw [traffic, Broadcast.run_append, ← broadcast_act h, ← ih (h.act a)]
    rfl

/-- From the first action on, a broadcast is what the operations issued to it make of an empty
one. -/
theorem broadcast_run_empty (actions : List Action) (place : Nat) :
    (empty.run actions).broadcast place = Broadcast.empty.run (empty.traffic place actions) :=
  broadcast_run (fun place hplace => by cases hplace) actions place

end ScatterPick.Exchange
