import Mathlib.Data.List.Induction
import ScatterPick.Proofs.Event.Delivery

/-!
# Pruning

A receiver that is given up leaves its entry on the subscriber list until a notice that the mask of
the entry lets through fails to reach it. Notices that the mask holds back leave the entry where it
is, however many they are.
-/

namespace ScatterPick.Broadcast

/-- A subscription in the course of some operations. -/
structure Subscription where
  mask : EventKind
  receiver : Nat
  /-- What happened since. -/
  since : List Operation

namespace Subscription

/-- The entry of the subscriber list. -/
def entry (s : Subscription) : Subscriber := ⟨s.mask, s.receiver⟩

/-- Whether the receiver was given up. -/
def dropped (s : Subscription) : Bool := decide (.drop s.receiver ∈ s.since)

/-- The notices that went out since the receiver was given up. -/
def missed (s : Subscription) : List Notice :=
  emitted (s.since.dropWhile (· ≠ .drop s.receiver))

/-- Whether no notice failed to reach the receiver. -/
def unnoticed (s : Subscription) : Bool := s.missed.all fun n => !s.mask.accepts n

/-- Whether the receiver was given up and no notice failed to reach it. -/
def lingers (s : Subscription) : Bool := s.dropped && s.unnoticed

/-- The subscription after one more operation. -/
def andThen (s : Subscription) (op : Operation) : Subscription :=
  { s with since := s.since ++ [op] }

theorem dropped_andThen (s : Subscription) (op : Operation) :
    (s.andThen op).dropped = (s.dropped || decide (op = .drop s.receiver)) := by
  simp [dropped, andThen, eq_comm]

/-- Before a receiver is given up nothing is missed. -/
theorem dropWhile_since_eq_nil {s : Subscription} :
    s.since.dropWhile (· ≠ .drop s.receiver) = [] ↔ s.dropped = false := by
  rw [List.dropWhile_eq_nil_iff, dropped, decide_eq_false_iff_not]
  constructor
  · intro hall hmem
    exact of_decide_eq_true (hall _ hmem) rfl
  · intro hmem op hop
    exact decide_eq_true fun hk => hmem (hk ▸ hop)

theorem missed_of_kept {s : Subscription} (h : s.dropped = false) : s.missed = [] := by
  rw [missed, dropWhile_since_eq_nil.mpr h]
  rfl

theorem unnoticed_of_kept {s : Subscription} (h : s.dropped = false) : s.unnoticed = true := by
  rw [unnoticed, missed_of_kept h]
  rfl

theorem missed_andThen (s : Subscription) (op : Operation) :
    (s.andThen op).missed = if s.dropped then s.missed ++ emitted [op] else [] := by
  have hmissed : (s.andThen op).missed =
      emitted ((s.since ++ [op]).dropWhile (· ≠ .drop s.receiver)) := rfl
  rw [hmissed, List.dropWhile_append]
  cases hd : s.dropped with
  | true =>
    have hne : s.since.dropWhile (· ≠ .drop s.receiver) ≠ [] := by
      rw [ne_eq, dropWhile_since_eq_nil, hd]
      decide
    rw [if_neg fun hempty => hne (List.isEmpty_iff.mp hempty), emitted_append]
    rfl
  | false =>
    rw [if_pos (List.isEmpty_iff.mpr (dropWhile_since_eq_nil.mpr hd))]
    by_cases hop : op = .drop s.receiver
    · simp [hop, emitted]
    · simp [hop, emitted]

theorem unnoticed_andThen (s : Subscription) (op : Operation) :
    (s.andThen op).unnoticed = match op with
      | .emit n => s.unnoticed && (!s.mask.accepts n || !s.dropped)
      | _ => s.unnoticed := by
  rw [unnoticed, missed_andThen]
  cases hd : s.dropped with
  | true => cases op <;> simp [emitted, unnoticed, andThen]
  | false => cases op <;> simp [unnoticed_of_kept hd]

end Subscription

/-- The subscriptions in a sequence of operations, in order; the first one gets the receiver with
the given number. -/
def subscriptionsFrom (number : Nat) : List Operation → List Subscription
  | [] => []
  | .subscribe mask :: rest => ⟨mask, number, rest⟩ :: subscriptionsFrom (number + 1) rest
  | _ :: rest => subscriptionsFrom number rest

/-- All subscriptions in a sequence of operations. -/
def subscriptions (ops : List Operation) : List Subscription := subscriptionsFrom 0 ops

/-- The subscription that an operation makes. -/
def newSubscription (number : Nat) : Operation → Option Subscription
  | .subscribe mask => some ⟨mask, number, []⟩
  | _ => none

theorem subscriptionsFrom_concat (number : Nat) (ops : List Operation) (op : Operation) :
    subscriptionsFrom number (ops ++ [op]) = (subscriptionsFrom number ops).map (·.andThen op) ++
      (newSubscription (number + (subscriptionsFrom number ops).length) op).toList := by
  induction ops generalizing number with
  | nil => cases op <;> rfl
  | cons first rest ih =>
    cases first with
    | subscribe mask =>
      rw [List.cons_append, subscriptionsFrom, ih, subscriptionsFrom, List.length_cons,
        Nat.add_right_comm, Nat.add_assoc number]
      rfl
    | _ => exact ih number

theorem subscriptions_concat (ops : List Operation) (op : Operation) :
    subscriptions (ops ++ [op]) = (subscriptions ops).map (·.andThen op) ++
      (newSubscription (subscriptions ops).length op).toList := by
  rw [subscriptions, subscriptionsFrom_concat, Nat.zero_add]
  rfl

theorem run_concat (b : Broadcast) (ops : List Operation) (op : Operation) :
    b.run (ops ++ [op]) = (b.run ops).apply op := run_append b ops [op]

/-- A broadcast keeps account of some subscriptions. -/
structure Accounts (b : Broadcast) (subs : List Subscription) : Prop where
  length : b.receivers.length = subs.length
  receiver_lt : ∀ s ∈ subs, s.receiver < b.receivers.length
  isAlive : ∀ s ∈ subs, b.isAlive s.receiver = !s.dropped
  subscribers : b.subscribers = (subs.filter (·.unnoticed)).map (·.entry)

namespace Accounts

variable {b : Broadcast} {subs : List Subscription}

/-- Who is there after an operation of those that were there before. -/
theorem isAlive_apply_andThen (h : Accounts b subs) (op : Operation) {s : Subscription}
    (hs : s ∈ subs) : (b.apply op).isAlive s.receiver = !(s.andThen op).dropped := by
  have halive := h.isAlive s hs
  rw [isAlive_apply, Subscription.dropped_andThen]
  cases op with
  | subscribe mask =>
    have hne : s.receiver ≠ b.receivers.length := Nat.ne_of_lt (h.receiver_lt s hs)
    simp [halive, hne]
  | drop receiver =>
    by_cases hk : receiver = s.receiver
    · simp [hk]
    · simp [halive, hk, Ne.symm hk]
  | _ => simp [halive]

/-- The entries that an operation leaves of those before. -/
theorem map_entry_andThen (h : Accounts b subs) (op : Operation) :
    ((subs.map (·.andThen op)).filter (·.unnoticed)).map (·.entry) =
      match op with
      | .emit n => b.subscribers.filter fun s => !s.mask.accepts n || b.isAlive s.receiver
      | _ => b.subscribers := by
  have hmap : ((subs.map (·.andThen op)).filter (·.unnoticed)).map (·.entry) =
      (subs.filter fun s => (s.andThen op).unnoticed).map (·.entry) := by
    rw [List.filter_map, List.map_map]
    rfl
  rw [hmap, h.subscribers]
  cases op with
  | emit n =>
    simp only [List.filter_map, List.filter_filter]
    refine congrArg (List.map _) (List.filter_congr fun s hs => ?_)
    rw [Subscription.unnoticed_andThen, Bool.and_comm]
    simp [Subscription.entry, h.isAlive s hs]
  | _ => simp only [Subscription.unnoticed_andThen]

/-- What an operation does to a broadcast is what it does to the subscriptions. -/
theorem apply (h : Accounts b subs) (op : Operation) :
    Accounts (b.apply op) (subs.map (·.andThen op) ++
      (newSubscription subs.length op).toList) := by
  have hlength := length_receivers_apply b op
  have hentries := h.map_entry_andThen op
  have hold (s : Subscription) (hs : s ∈ subs.map (·.andThen op)) :
      s.receiver < b.receivers.length ∧ (b.apply op).isAlive s.receiver = !s.dropped := by
    obtain ⟨t, ht, rfl⟩ := List.mem_map.mp hs
    exact ⟨h.receiver_lt t ht, h.isAlive_apply_andThen op ht⟩
  cases op with
  | subscribe mask =>
    refine ⟨?_, fun s hs => ?_, fun s hs => ?_, ?_⟩
    · simp [hlength, h.length, newSubscription]
    · rw [hlength]
      rcases List.mem_append.mp hs with hs | hs
      · exact Nat.lt_succ_of_lt (hold s hs).1
      · obtain rfl := List.mem_singleton.mp hs
        exact h.length ▸ Nat.lt_succ_self _
    · rcases List.mem_append.mp hs with hs | hs
      · exact (hold s hs).2
      · obtain rfl := List.mem_singleton.mp hs
        simp [isAlive_apply, h.length, Subscription.dropped]
    · rw [List.filter_append, List.map_append, hentries, ← h.length]
      rfl
  | _ =>
    simp only [newSubscription, Option.toList_none, List.append_nil]
    refine ⟨?_, fun s hs => ?_, fun s hs => (hold s hs).2, hentries.symm⟩
    · rw [hlength, h.length, List.length_map]
    · rw [hlength]
      exact (hold s hs).1

/-- The count exceeds the number of receivers that are there by the number of those that were given
up without any notice failing to reach them. -/
theorem count (h : Accounts b subs) :
    b.count = subs.countP (fun s => b.isAlive s.receiver) + subs.countP (·.lingers) := by
  have hlingers : subs.countP (fun s => s.unnoticed && s.dropped) = subs.countP (·.lingers) :=
    List.countP_congr fun s _ => by rw [Subscription.lingers, Bool.and_comm]
  have hthere : subs.countP (fun s => s.unnoticed && !s.dropped) =
      subs.countP (fun s => b.isAlive s.receiver) := by
    refine List.countP_congr fun s hs => ?_
    rw [h.isAlive s hs]
    cases hd : s.dropped with
    | true => simp
    | false => simp [Subscription.unnoticed_of_kept hd]
  calc b.count = subs.countP (·.unnoticed) := by
        rw [Broadcast.count, h.subscribers, List.length_map, ← List.countP_eq_length_filter]
    _ = subs.countP (·.lingers) + subs.countP (fun s => b.isAlive s.receiver) := by
        rw [List.countP_eq_countP_filter_add subs _ (·.dropped), List.countP_filter,
          List.countP_filter, hlingers, hthere]
    _ = _ := Nat.add_comm ..

end Accounts

theorem accounts_run (ops : List Operation) : Accounts (empty.run ops) (subscriptions ops) := by
  induction ops using List.reverseRecOn with
  | nil => exact ⟨rfl, nofun, nofun, rfl⟩
  | append_singleton ops op ih =>
    rw [run_concat, subscriptions_concat]
    exact ih.apply op

/-- What lingers after an emission is held back by its mask from the notice that went out. -/
theorem accepts_of_lingers {ops : List Operation} {n : Notice} {s : Subscription}
    (hs : s ∈ subscriptions (ops ++ [.emit n])) (h : s.lingers = true) :
    s.mask.accepts n = false := by
  rw [subscriptions_concat, newSubscription, Option.toList_none, List.append_nil] at hs
  · obtain ⟨t, -, rfl⟩ := List.mem_map.mp hs
    rw [Subscription.lingers, Subscription.dropped_andThen, Subscription.unnoticed_andThen] at h
    simp only [reduceCtorEq, decide_false, Bool.or_false, Bool.and_eq_true, Bool.or_eq_true,
      Bool.not_eq_true'] at h
    obtain ⟨hdropped, -, haccepts | hkept⟩ := h
    · exact haccepts
    · rw [hdropped] at hkept
      cases hkept
  · exact nofun

end ScatterPick.Broadcast

namespace ScatterPick.Exchange

open Broadcast

/-- Right after a notice went out on a broadcast, its count is the number of subscribers whose
receivers are there, and of those whose receivers were given up and whose masks held back this
notice and every other one since. So it is the number of those that are there just in case nothing
was held back from one that is gone. -/
theorem count_after_emission (actions : List Action) (place : Nat) (ops : List Operation)
    (n : Notice) (hops : empty.traffic place actions = ops ++ [.emit n]) :
    let b := (empty.run actions).broadcast place
    let subs := subscriptions (ops ++ [.emit n])
    b.count = subs.countP (fun s => b.isAlive s.receiver) + subs.countP (·.lingers) ∧
      (∀ s ∈ subs, s.lingers = true → s.mask.accepts n = false) ∧
      (b.count = subs.countP (fun s => b.isAlive s.receiver) ↔ ∀ s ∈ subs, s.lingers = false) := by
  intro b subs
  have hb : b = Broadcast.empty.run (ops ++ [.emit n]) := by
    rw [← hops]
    exact broadcast_run_empty actions place
  have hcount : b.count =
      subs.countP (fun s => b.isAlive s.receiver) + subs.countP (·.lingers) := by
    rw [hb]
    exact (accounts_run (ops ++ [.emit n])).count
  refine ⟨hcount, fun s hs => accepts_of_lingers hs, ?_⟩
  rw [hcount, Nat.add_eq_left, List.countP_eq_zero]
  simp only [Bool.not_eq_true]

/-- Of two receivers that were given up, the one that was to get the notice leaves the list, the
other one stays beside the receiver that is there. -/
theorem one_of_two_pruned :
    let ops : List Operation := [.subscribe .hudShown, .subscribe .selectionChanged,
      .subscribe .all, .drop 0, .drop 1]
    let actions : List Action := .create :: .clone 0 ::
      (ops ++ [Operation.emit { kinds := .selectionChanged }]).map (.through 1)
    empty.traffic 0 actions = ops ++ [.emit { kinds := .selectionChanged }] ∧
      ((empty.run actions).broadcast 0).count = 1 + 1 := by
  intro ops actions
  have hops : empty.traffic 0 actions = ops ++ [.emit { kinds := .selectionChanged }] := by decide
  refine ⟨hops, ?_⟩
  rw [(count_after_emission actions 0 ops { kinds := .selectionChanged } hops).1]
  decide

/-- An emission does not always prune what was given up before it: the mask holds the notice back,
so nothing fails. -/
theorem dropped_outlives_emission :
    let actions : List Action := [.create, .through 0 (.subscribe .hudShown), .through 0 (.drop 0),
      .through 0 (.emit { kinds := .selectionChanged })]
    let b := (empty.run actions).broadcast 0
    b.count = 1 ∧
      (subscriptions (empty.traffic 0 actions)).countP (fun s => b.isAlive s.receiver) = 0 := by
  decide

end ScatterPick.Exchange
