import Mathlib.Data.List.TakeWhile
import ScatterPick.Proofs.Event.Handles

/-!
# Delivery

A receiver that is there gets every notice that its mask lets through, once and in order. Entries of
the subscriber list keep the order of subscription, so an entry that is given up never stands for
another one.
-/

namespace ScatterPick

/-- A receiver with more notices waiting, if it is there to take them. -/
def Receiver.give (r : Receiver) (notices : List Notice) : Receiver :=
  if r.alive then { r with waiting := r.waiting ++ notices } else r

@[simp] theorem Receiver.give_nil (r : Receiver) : r.give [] = r := by simp [give]

@[simp] theorem Receiver.alive_give (r : Receiver) (notices : List Notice) :
    (r.give notices).alive = r.alive := by
  rw [give]
  split
  · rfl
  · rfl

theorem Receiver.give_give (r : Receiver) (notices more : List Notice) :
    (r.give notices).give more = r.give (notices ++ more) := by
  cases h : r.alive <;> simp [give, h]

namespace Broadcast

variable {b : Broadcast} {k : Nat} {mask : EventKind}

/-- What a receiver gets out of a sequence of operations, in this order. -/
def collected (b : Broadcast) (receiver : Nat) : List Operation → List Notice
  | [] => []
  | op :: rest => b.taken receiver op ++ (b.apply op).collected receiver rest

/-- The notices that go out in a sequence of operations, in this order. -/
def emitted (ops : List Operation) : List Notice :=
  ops.filterMap fun
    | .emit notice => some notice
    | _ => none

theorem emitted_append (ops more : List Operation) :
    emitted (ops ++ more) = emitted ops ++ emitted more := List.filterMap_append

theorem emitted_cons (op : Operation) (rest : List Operation) :
    emitted (op :: rest) = emitted [op] ++ emitted rest := emitted_append [op] rest

theorem emitted_map_emit (notices : List Notice) : emitted (notices.map .emit) = notices := by
  induction notices with
  | nil => rfl
  | cons n rest ih =>
    rw [List.map_cons, emitted_cons, ih]
    rfl

/-! ## One notice -/

/-- What an entry of the subscriber list hands to a receiver. -/
def handed (n : Notice) (k : Nat) (s : Subscriber) : List Notice :=
  if s.receiver = k ∧ s.mask.accepts n = true then [n] else []

theorem getElem?_deliver (n : Notice) (receivers : List Receiver) (s : Subscriber) (k : Nat) :
    (deliver n receivers s)[k]? = receivers[k]?.map (·.give (handed n k s)) := by
  rw [deliver, handed]
  by_cases haccepts : s.mask.accepts n = true
  · rw [if_pos haccepts, List.getElem?_modify]
    by_cases hk : s.receiver = k
    · simp [hk, haccepts, Receiver.give]
    · simp [hk]
  · simp [haccepts]

theorem getElem?_foldl_deliver (n : Notice) (subscribers : List Subscriber)
    (receivers : List Receiver) (k : Nat) :
    (subscribers.foldl (deliver n) receivers)[k]? =
      receivers[k]?.map (·.give (subscribers.flatMap (handed n k))) := by
  induction subscribers generalizing receivers with
  | nil => simp
  | cons s rest ih =>
    rw [List.foldl_cons, ih, getElem?_deliver, Option.map_map, List.flatMap_cons]
    exact congrArg (Option.map · _) (funext fun r => Receiver.give_give r _ _)

theorem length_foldl_deliver (n : Notice) (subscribers : List Subscriber)
    (receivers : List Receiver) :
    (subscribers.foldl (deliver n) receivers).length = receivers.length := by
  induction subscribers generalizing receivers with
  | nil => rfl
  | cons s rest ih =>
    rw [List.foldl_cons, ih, deliver]
    split
    · exact List.length_modify ..
    · rfl

/-- Where every receiver has at most one entry, its entry hands it the notice once. -/
theorem flatMap_handed {subscribers : List Subscriber}
    (h : (subscribers.map (·.receiver)).Pairwise (· < ·)) {s : Subscriber} (hs : s ∈ subscribers)
    (n : Notice) :
    subscribers.flatMap (handed n s.receiver) = if s.mask.accepts n then [n] else [] := by
  induction subscribers with
  | nil => cases hs
  | cons first rest ih =>
    rw [List.map_cons, List.pairwise_cons] at h
    rw [List.flatMap_cons]
    rcases List.mem_cons.mp hs with rfl | hs
    · have hrest : rest.flatMap (handed n s.receiver) = [] := by
        rw [List.flatMap_eq_nil_iff]
        intro t ht
        have hne : t.receiver ≠ s.receiver :=
          Nat.ne_of_gt (h.1 t.receiver (List.mem_map_of_mem ht))
        rw [handed, if_neg fun ht => hne ht.1]
      simp [hrest, handed]
    · have hne : first.receiver ≠ s.receiver :=
        Nat.ne_of_lt (h.1 s.receiver (List.mem_map_of_mem hs))
      rw [ih h.2 hs, handed, if_neg fun hf => hne hf.1, List.nil_append]

/-! ## Which receivers are there -/

/-- Only giving up a receiver and subscribing another one change who is there. -/
theorem isAlive_apply (b : Broadcast) (op : Operation) (k : Nat) :
    (b.apply op).isAlive k = match op with
      | .subscribe _ => b.isAlive k || k == b.receivers.length
      | .drop receiver => b.isAlive k && k != receiver
      | _ => b.isAlive k := by
  cases op with
  | subscribe mask =>
    simp only [apply, Broadcast.subscribe, isAlive]
    rcases Nat.lt_trichotomy k b.receivers.length with hk | hk | hk
    · rw [List.getElem?_append_left hk]
      simp [Nat.ne_of_lt hk]
    · simp [hk]
    · rw [List.getElem?_append_right (Nat.le_of_lt hk)]
      simp [Nat.ne_of_gt hk, Nat.sub_ne_zero_of_lt hk, List.getElem?_eq_none (Nat.le_of_lt hk)]
  | drop receiver =>
    simp only [apply, Broadcast.drop, isAlive, List.getElem?_modify]
    by_cases hk : receiver = k
    · cases h : b.receivers[k]? <;> simp [hk]
    · simp [hk, Ne.symm hk]
  | take receiver count =>
    simp only [apply, Broadcast.take, isAlive, List.getElem?_modify]
    by_cases hk : receiver = k
    · cases h : b.receivers[k]? <;> simp [hk]
    · simp [hk]
  | drain =>
    simp only [apply, Broadcast.drain, isAlive, List.getElem?_map]
    cases h : b.receivers[k]? <;> simp
  | emit n =>
    simp only [apply, Broadcast.emit, isAlive, getElem?_foldl_deliver]
    cases h : b.receivers[k]? <;> simp

theorem length_receivers_apply (b : Broadcast) (op : Operation) :
    (b.apply op).receivers.length = match op with
      | .subscribe _ => b.receivers.length + 1
      | _ => b.receivers.length := by
  cases op with
  | subscribe mask => simp [apply, Broadcast.subscribe]
  | drop receiver => simp [apply, Broadcast.drop]
  | take receiver count => simp [apply, Broadcast.take]
  | drain => simp [apply, Broadcast.drain]
  | emit n =>
    exact length_foldl_deliver n b.subscribers b.receivers

theorem lt_of_isAlive (h : b.isAlive k = true) : k < b.receivers.length := by
  by_contra hk
  rw [isAlive, List.getElem?_eq_none (Nat.le_of_not_lt hk)] at h
  cases h

/-! ## The subscriber list -/

/-- Entries carry numbers of receivers, in the order of subscription. -/
structure Numbered (b : Broadcast) : Prop where
  ascending : (b.subscribers.map (·.receiver)).Pairwise (· < ·)
  given : ∀ s ∈ b.subscribers, s.receiver < b.receivers.length

theorem numbered_empty : Numbered empty := ⟨.nil, fun s hs => by cases hs⟩

theorem Numbered.apply (h : b.Numbered) (op : Operation) : (b.apply op).Numbered := by
  have hlength := length_receivers_apply b op
  cases op with
  | subscribe mask =>
    refine ⟨?_, fun s hs => ?_⟩
    · simp only [Broadcast.apply, Broadcast.subscribe, List.map_append, List.map_singleton]
      refine List.pairwise_append.mpr ⟨h.ascending, List.pairwise_singleton .., ?_⟩
      intro i hi j hj
      obtain ⟨s, hs, rfl⟩ := List.mem_map.mp hi
      rw [List.mem_singleton.mp hj]
      exact h.given s hs
    · rw [hlength]
      rcases List.mem_append.mp hs with hs | hs
      · exact Nat.lt_succ_of_lt (h.given s hs)
      · rw [List.mem_singleton.mp hs]
        exact Nat.lt_succ_self _
  | emit n =>
    refine ⟨h.ascending.sublist (List.filter_sublist.map _), fun s hs => ?_⟩
    rw [hlength]
    exact h.given s (List.mem_filter.mp hs).1
  | _ => exact ⟨h.ascending, fun s hs => hlength ▸ h.given s hs⟩

theorem Numbered.run (h : b.Numbered) (ops : List Operation) : (b.run ops).Numbered := by
  induction ops generalizing b with
  | nil => exact h
  | cons op rest ih => exact ih (h.apply op)

/-- A receiver is there and its entry is on the list. -/
structure Serves (b : Broadcast) (k : Nat) (mask : EventKind) : Prop extends Numbered b where
  entry : ⟨mask, k⟩ ∈ b.subscribers
  alive : b.isAlive k = true

theorem Numbered.subscribe (h : b.Numbered) (mask : EventKind) :
    Serves (b.subscribe mask) b.receivers.length mask := by
  refine ⟨h.apply (.subscribe mask), List.mem_append_right _ (List.mem_singleton_self _), ?_⟩
  have halive := isAlive_apply b (.subscribe mask) b.receivers.length
  rw [show b.subscribe mask = b.apply (.subscribe mask) from rfl, halive]
  simp

namespace Serves

/-- Nothing but giving up the receiver ends its service. -/
theorem apply (h : Serves b k mask) {op : Operation} (hop : op ≠ .drop k) :
    Serves (b.apply op) k mask := by
  refine ⟨h.toNumbered.apply op, ?_, ?_⟩
  · cases op with
    | subscribe other => exact List.mem_append_left _ h.entry
    | emit n => exact List.mem_filter.mpr ⟨h.entry, by simp [h.alive]⟩
    | _ => exact h.entry
  · rw [isAlive_apply]
    cases op with
    | drop receiver =>
      have hk : k ≠ receiver := fun hk => hop (hk ▸ rfl)
      simp [h.alive, hk]
    | _ => simp [h.alive]

/-- What a receiver has got and what waits for it grow by the notices that its mask lets through. -/
theorem taken_append_pending (h : Serves b k mask) {op : Operation} (hop : op ≠ .drop k) :
    b.taken k op ++ (b.apply op).pending k =
      b.pending k ++ (emitted [op]).filter mask.accepts := by
  have hlt := lt_of_isAlive h.alive
  cases op with
  | subscribe other =>
    simp [taken, Broadcast.apply, Broadcast.subscribe, pending, List.getElem?_append_left hlt,
      emitted]
  | drop receiver =>
    have hk : receiver ≠ k := fun hk => hop (hk ▸ rfl)
    simp [taken, Broadcast.apply, Broadcast.drop, pending, hk, emitted]
  | take receiver count =>
    by_cases hk : receiver = k
    · cases hr : b.receivers[k]? <;>
        simp [taken, Broadcast.apply, Broadcast.take, pending, hk, hr, emitted]
    · simp [taken, Broadcast.apply, Broadcast.take, pending, hk, emitted]
  | drain =>
    cases hr : b.receivers[k]? <;>
      simp [taken, Broadcast.apply, Broadcast.drain, pending, hr, emitted]
  | emit n =>
    have hhanded := flatMap_handed h.ascending h.entry n
    have halive := h.alive
    rw [isAlive] at halive
    simp only [taken, Broadcast.apply, Broadcast.emit, pending, getElem?_foldl_deliver, emitted]
    cases hr : b.receivers[k]? with
    | none => simp [hr] at halive
    | some r =>
      rw [hr] at halive
      have halive : r.alive = true := halive
      simp only at hhanded
      simp [hhanded, Receiver.give, halive, List.filter_cons]

theorem run (h : Serves b k mask) {ops : List Operation} (hops : .drop k ∉ ops) :
    Serves (b.run ops) k mask := by
  induction ops generalizing b with
  | nil => exact h
  | cons op rest ih =>
    rw [List.mem_cons, not_or] at hops
    exact ih (h.apply (Ne.symm hops.1)) hops.2

/-- As long as a receiver is there it gets what its mask lets through, all of it and in order. -/
theorem collected_append_pending (h : Serves b k mask) {ops : List Operation}
    (hops : .drop k ∉ ops) :
    b.collected k ops ++ (b.run ops).pending k =
      b.pending k ++ (emitted ops).filter mask.accepts := by
  induction ops generalizing b with
  | nil => rw [collected, List.nil_append]; exact (List.append_nil _).symm
  | cons op rest ih =>
    rw [List.mem_cons, not_or] at hops
    have hop : op ≠ .drop k := Ne.symm hops.1
    calc b.collected k (op :: rest) ++ (b.run (op :: rest)).pending k
        = b.taken k op ++ ((b.apply op).collected k rest ++ ((b.apply op).run rest).pending k) :=
          List.append_assoc ..
      _ = b.taken k op ++ (b.apply op).pending k ++ (emitted rest).filter mask.accepts := by
          rw [ih (h.apply hop) hops.2, List.append_assoc]
      _ = b.pending k ++ (emitted (op :: rest)).filter mask.accepts := by
          rw [h.taken_append_pending hop, emitted_cons op rest, List.filter_append,
            List.append_assoc]

end Serves

/-! ## A receiver that was given up -/

/-- A receiver that was given up stays so. -/
theorem gone_apply (h : b.receivers[k]? = some ⟨false, []⟩) (op : Operation) :
    (b.apply op).receivers[k]? = some ⟨false, []⟩ := by
  have hlt : k < b.receivers.length := (List.getElem?_eq_some_iff.mp h).1
  cases op with
  | subscribe other => exact (List.getElem?_append_left hlt).trans h
  | emit n => simp [apply, Broadcast.emit, getElem?_foldl_deliver, h, Receiver.give]
  | _ => simp [apply, Broadcast.drop, Broadcast.take, Broadcast.drain, List.getElem?_modify, h]

/-- There is nothing to take any more from a receiver that was given up. -/
theorem collected_of_gone (h : b.receivers[k]? = some ⟨false, []⟩) (ops : List Operation) :
    b.collected k ops = [] := by
  induction ops generalizing b with
  | nil => rfl
  | cons op rest ih =>
    have hpending : b.pending k = [] := by simp [pending, h]
    have htaken : b.taken k op = [] := by cases op <;> simp [taken, hpending]
    rw [collected, htaken, ih (gone_apply h op), List.nil_append]

/-- What happens as long as a receiver is not given up. -/
def whileThere (k : Nat) (ops : List Operation) : List Operation := ops.takeWhile (· ≠ .drop k)

theorem drop_notMem_whileThere (k : Nat) (ops : List Operation) : .drop k ∉ whileThere k ops := by
  intro h
  have hk := List.mem_takeWhile_imp h
  simp at hk

theorem whileThere_eq_self {ops : List Operation} (h : .drop k ∉ ops) : whileThere k ops = ops := by
  refine List.takeWhile_eq_self_iff.mpr fun op hop => decide_eq_true ?_
  exact fun hk => h (hk ▸ hop)

/-- Whatever a receiver gets, it gets before it is given up. -/
theorem collected_whileThere (h : k < b.receivers.length) (ops : List Operation) :
    b.collected k ops = b.collected k (whileThere k ops) := by
  induction ops generalizing b with
  | nil => rfl
  | cons op rest ih =>
    by_cases hop : op = .drop k
    · subst hop
      have hgone : (b.apply (.drop k)).receivers[k]? = some ⟨false, []⟩ := by
        simp [apply, Broadcast.drop, h]
      have hwhile : whileThere k (.drop k :: rest) = [] := by simp [whileThere]
      rw [collected, collected_of_gone hgone, hwhile]
      rfl
    · have hwhile : whileThere k (op :: rest) = op :: whileThere k rest := by
        simp [whileThere, hop]
      have hk : k < (b.apply op).receivers.length := by
        rw [length_receivers_apply]
        split
        · exact Nat.lt_succ_of_lt h
        · exact h
      rw [hwhile, collected, collected, ih hk]

end Broadcast

namespace Exchange

open Broadcast

/-- Whatever happens on an exchange, the subscriber list of a broadcast keeps the order of
subscription, and each receiver gets, as long as it is there, the notices emitted since its
subscription that its mask lets through: all of them, once, unaltered and in order. -/
theorem run_fan_out_exact (actions : List Action) (place : Nat) :
    let b := (empty.run actions).broadcast place
    let ops := empty.traffic place actions
    b = Broadcast.empty.run ops ∧
      (b.subscribers.map (·.receiver)).Pairwise (· < ·) ∧
      ∀ before mask after, ops = before ++ .subscribe mask :: after →
        let k := (Broadcast.empty.run before).receivers.length
        let start := (Broadcast.empty.run before).subscribe mask
        let there := whileThere k after
        start.collected k there ++ (start.run there).pending k =
            (emitted there).filter mask.accepts ∧
          start.collected k after = start.collected k there ∧
          (.drop k ∉ after → there = after ∧ b = start.run after ∧ ⟨mask, k⟩ ∈ b.subscribers) := by
  intro b ops
  have hb : b = Broadcast.empty.run ops := broadcast_run_empty actions place
  refine ⟨hb, ?_, ?_⟩
  · rw [hb]
    exact (numbered_empty.run ops).ascending
  · intro before mask after hops k start there
    have hstart : Serves start k mask := (numbered_empty.run before).subscribe mask
    have hafter : b = start.run after := by
      rw [hb, hops, run_append]
      rfl
    refine ⟨?_, collected_whileThere (lt_of_isAlive hstart.alive) after, fun hkept => ?_⟩
    · have hpending : start.pending k = [] := by
        simp [start, k, pending, Broadcast.subscribe]
      rw [hstart.collected_append_pending (drop_notMem_whileThere k after), hpending,
        List.nil_append]
    · refine ⟨whileThere_eq_self hkept, hafter, ?_⟩
      rw [hafter]
      exact (hstart.run hkept).entry

/-- A receiver between takes and emissions through two handles gets both notices for it, past a
neighbour on the list that is pruned in the same pass. -/
theorem fan_out_past_pruned_neighbour :
    let first : Notice := { kinds := .selectionChanged, selection := some [1, 2] }
    let second : Notice := { kinds := .selectionChanged, selection := some [] }
    let before : List Operation := [.subscribe .hudShown, .subscribe .all]
    let after : List Operation := [.drop 1, .emit first, .take 2 1, .emit { kinds := .hudShown },
      .emit second]
    let ops := before ++ .subscribe .selectionChanged :: after
    let actions : List Action := [.create, .clone 0] ++
      ops.mapIdx fun i op => .through (i % 2) op
    let b := (empty.run actions).broadcast 0
    let start := (Broadcast.empty.run before).subscribe .selectionChanged
    empty.traffic 0 actions = ops ∧ .drop 2 ∉ after ∧
      start.collected 2 after ++ b.pending 2 = [first, second] ∧
      ⟨.selectionChanged, 2⟩ ∈ b.subscribers := by
  intro first second before after ops actions b start
  have hops : empty.traffic 0 actions = ops := by decide
  have hkept : .drop 2 ∉ after := by decide
  obtain ⟨hgot, -, hlist⟩ := (run_fan_out_exact actions 0).2.2 before .selectionChanged after hops
  obtain ⟨hthere, hb, hentry⟩ := hlist hkept
  have hb : b = start.run after := hb
  rw [hthere] at hgot
  refine ⟨hops, hkept, ?_, hentry⟩
  rw [hb]
  exact hgot.trans (by decide)

end Exchange

end ScatterPick
