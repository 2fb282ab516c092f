import Mathlib.Data.Set.Card
import ScatterPick.Proofs.Event.Flags
import ScatterPick.Proofs.Event.Registry

/-!
# Attached listeners

Whatever was attached to a registry and detached from it, the listeners that it holds can be read
off the history: each is there because it was attached once, with the kind it still has, and because
its id was not detached from then on. What was detached before an id was handed out does not concern
the listener that gets it.
-/

namespace ScatterPick.Listeners

/-- One thing that happens to a registry. -/
inductive Operation where
  | add (kind : EventKind)
  /-- Detaches an id, whether it was handed out or not. -/
  | remove (id : Nat)
  deriving DecidableEq, Repr

/-- Whether an operation attaches a listener. -/
def Operation.attaches : Operation → Bool
  | .add _ => true
  | .remove _ => false

/-- The registry after one operation. -/
def apply (r : Listeners) : Operation → Listeners
  | .add kind => r.add kind
  | .remove id => r.remove id

/-- The registry after a sequence of operations. -/
def run (r : Listeners) (ops : List Operation) : Listeners := ops.foldl apply r

/-- The ids that a registry hands out in a sequence of operations, in this order. -/
def issued (r : Listeners) : List Operation → List Nat
  | [] => []
  | .add kind :: rest => r.next :: (r.add kind).issued rest
  | .remove id :: rest => (r.remove id).issued rest

/-- A listener was attached in the course of some operations, under the id that the registry had
next, and this id was not detached from then on. -/
def Attached (r : Listeners) (ops : List Operation) (l : Listener) : Prop :=
  ∃ before after, ops = before ++ .add l.kind :: after ∧ l.id = (r.run before).next ∧
    .remove l.id ∉ after

variable {r : Listeners}

theorem issued_eq_range' (r : Listeners) (ops : List Operation) :
    r.issued ops = List.range' r.next (ops.countP (·.attaches)) := by
  induction ops generalizing r with
  | nil => rfl
  | cons op rest ih =>
    cases op with
    | add kind =>
      rw [issued, ih, List.countP_cons_of_pos rfl, List.range'_succ]
      rfl
    | remove id =>
      rw [issued, ih, List.countP_cons_of_neg Bool.false_ne_true]
      rfl

theorem Numbered.run (h : r.Numbered) (ops : List Operation) : (r.run ops).Numbered := by
  induction ops generalizing r with
  | nil => exact h
  | cons op rest ih =>
    cases op with
    | add kind => exact ih (h.add kind)
    | remove id => exact ih (h.remove id)

/-- Being attached is so because of the first operation, or because of the others. -/
theorem attached_cons {op : Operation} {rest : List Operation} {l : Listener} :
    r.Attached (op :: rest) l ↔
      (op = .add l.kind ∧ l.id = r.next ∧ .remove l.id ∉ rest) ∨ (r.apply op).Attached rest l := by
  constructor
  · rintro ⟨before, after, hops, hid, hkept⟩
    cases before with
    | nil =>
      obtain ⟨rfl, rfl⟩ := List.cons_eq_cons.mp hops
      exact Or.inl ⟨rfl, hid, hkept⟩
    | cons first before =>
      obtain ⟨rfl, rfl⟩ := List.cons_eq_cons.mp hops
      exact Or.inr ⟨before, after, rfl, hid, hkept⟩
  · rintro (⟨rfl, hid, hkept⟩ | ⟨before, after, rfl, hid, hkept⟩)
    · exact ⟨[], rest, rfl, hid, hkept⟩
    · exact ⟨op :: before, after, rfl, hid, hkept⟩

/-- What a registry holds after some operations it held before and was not detached, or it was
attached by them. -/
theorem mem_live_run {ops : List Operation} {l : Listener} :
    l ∈ (r.run ops).live ↔ (l ∈ r.live ∧ .remove l.id ∉ ops) ∨ r.Attached ops l := by
  induction ops generalizing r with
  | nil =>
    have hnone : ¬ r.Attached [] l := by
      rintro ⟨before, after, hops, -⟩
      exact List.append_ne_nil_of_right_ne_nil before (List.cons_ne_nil _ after) hops.symm
    simp [hnone, run]
  | cons op rest ih =>
    have hrun : r.run (op :: rest) = (r.apply op).run rest := rfl
    rw [hrun, ih, attached_cons, ← or_assoc]
    refine or_congr_left ?_
    cases op with
    | add kind =>
      have hlive : l ∈ (r.apply (.add kind)).live ↔ l ∈ r.live ∨ l = ⟨r.next, kind⟩ := by
        simp [apply, add]
      have hnew : l = ⟨r.next, kind⟩ ↔ Operation.add kind = .add l.kind ∧ l.id = r.next := by
        obtain ⟨id, k⟩ := l
        simp [eq_comm, and_comm]
      have hother : Operation.remove l.id ∉ .add kind :: rest ↔ .remove l.id ∉ rest := by simp
      rw [hlive, hother, or_and_right, hnew, and_assoc]
    | remove id =>
      have hlive : l ∈ (r.apply (.remove id)).live ↔ l ∈ r.live ∧ l.id ≠ id := by
        simp [apply, remove]
      have hother : Operation.remove l.id ∉ .remove id :: rest ↔
          l.id ≠ id ∧ .remove l.id ∉ rest := by simp
      rw [hlive, hother, and_assoc]
      simp

/-- The ids that a registry hands out count upwards from zero, so none is handed out twice and each
is less than the number of listeners attached by then. The registry holds exactly the listeners that
were attached and not detached since, each with its kind, in the order of their ids; to detach any
other id, be it one that is handed out later, does nothing. Size, emptiness and what is listened for
are those of this set of listeners. -/
theorem run_holds_attached (ops : List Operation) :
    let r := empty.run ops
    let ids := empty.issued ops
    ids = List.range (ops.countP (·.attaches)) ∧ ids.Pairwise (· < ·) ∧
      (∀ l, l ∈ r.live ↔ empty.Attached ops l) ∧ (r.live.map (·.id)).Pairwise (· < ·) ∧
      (∀ id, (∀ l, empty.Attached ops l → l.id ≠ id) → r.remove id = r) ∧
      r.size = {l | empty.Attached ops l}.ncard ∧
      (r.isEmpty = true ↔ ∀ l, ¬ empty.Attached ops l) ∧
      ∀ kind, r.isListening kind = true ↔
        ∃ l n, empty.Attached ops l ∧ l.kind.has n = true ∧ kind.has n = true := by
  intro r ids
  have hids : ids = List.range (ops.countP (·.attaches)) := by
    rw [List.range_eq_range']
    exact issued_eq_range' empty ops
  have hlive (l : Listener) : l ∈ r.live ↔ empty.Attached ops l := by
    rw [mem_live_run]
    exact or_iff_right fun h => List.not_mem_nil h.1
  have hnumbered : r.Numbered :=
    Numbered.run ⟨.nil, fun l hl => absurd hl List.not_mem_nil⟩ ops
  refine ⟨hids, ?_, hlive, hnumbered.ascending, fun id hid => ?_, ?_, ?_, fun kind => ?_⟩
  · rw [hids]
    exact List.pairwise_lt_range
  · have hkept : r.live.filter (·.id != id) = r.live :=
      List.filter_eq_self.mpr fun l hl => bne_iff_ne.mpr (hid l ((hlive l).mp hl))
    rw [remove, hkept]
  · have hnodup : r.live.Nodup := hnumbered.nodup.of_map _
    have hset : {l | empty.Attached ops l} = ↑r.live.toFinset := by
      ext l
      simp [hlive]
    rw [hset, Set.ncard_coe_finset, List.toFinset_card_of_nodup hnodup]
    rfl
  · rw [isEmpty, List.isEmpty_iff, List.eq_nil_iff_forall_not_mem]
    exact forall_congr' fun l => not_congr (hlive l)
  · simp only [isListening, List.any_eq_true, hlive, EventKind.intersects_iff, exists_and_left]

/-- Ids that are detached before they are handed out are handed out all the same. Of three listeners
the second is left; to detach the first once more does nothing. -/
theorem run_detached_early :
    let ops : List Operation :=
      [.remove 0, .remove 1, .add .gesture, .add .close, .remove 0, .add .keyDown, .remove 2]
    let r := empty.run ops
    empty.issued ops = [0, 1, 2] ∧ r.live = [⟨1, .close⟩] ∧ empty.Attached ops ⟨1, .close⟩ ∧
      ¬ empty.Attached ops ⟨0, .gesture⟩ ∧ r.remove 0 = r ∧ r.isListening .close = true := by
  intro ops r
  obtain ⟨hids, -, hlive, -, hremove, -, -, hlistening⟩ := run_holds_attached ops
  have hattached : empty.Attached ops ⟨1, .close⟩ := (hlive _).mp (by decide)
  have hother (l : Listener) (hl : empty.Attached ops l) : l.id ≠ 0 := by
    have hmem : l ∈ r.live := (hlive l).mpr hl
    have hall : ∀ l ∈ r.live, l.id ≠ 0 := by decide
    exact hall l hmem
  refine ⟨by decide, by decide, hattached, fun h => hother _ h rfl, hremove 0 hother, ?_⟩
  exact (hlistening .close).mpr ⟨_, 6, hattached, by decide +kernel, by decide +kernel⟩

end ScatterPick.Listeners
