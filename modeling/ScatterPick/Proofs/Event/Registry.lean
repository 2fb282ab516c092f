import ScatterPick.Event.Listeners

/-!
# Ids of listeners

The registry hands out ids in ascending order, so those of the attached listeners are pairwise
different, and a listener that was not attached before has an id that no listener had before.
-/

namespace ScatterPick.Listeners

variable {r r' r'' : Listeners}

/-- A registry as it comes about: ids ascend and were handed out. -/
structure Numbered (r : Listeners) : Prop where
  ascending : (r.live.map (·.id)).Pairwise (· < ·)
  below : ∀ l ∈ r.live, l.id < r.next

theorem Numbered.add (h : r.Numbered) (kind : EventKind) : (r.add kind).Numbered where
  ascending := by
    have hbelow : ∀ id ∈ r.live.map (·.id), id < r.next := by
      intro id hid
      obtain ⟨l, hl, rfl⟩ := List.mem_map.mp hid
      exact h.below l hl
    simp only [Listeners.add, List.map_append, List.map_cons, List.map_nil]
    refine List.pairwise_append.mpr ⟨h.ascending, List.pairwise_singleton _ _, ?_⟩
    intro id hid last hlast
    obtain rfl := List.mem_singleton.mp hlast
    exact hbelow id hid
  below := by
    intro l hl
    rcases List.mem_append.mp hl with hold | hnew
    · exact Nat.lt_succ_of_lt (h.below l hold)
    · obtain rfl := List.mem_singleton.mp hnew
      exact Nat.lt_succ_self r.next

theorem Numbered.remove (h : r.Numbered) (id : Nat) : (r.remove id).Numbered where
  ascending := h.ascending.sublist (List.filter_sublist.map _)
  below l hl := h.below l (List.mem_filter.mp hl).1

/-- No two attached listeners share an id. -/
theorem Numbered.nodup (h : r.Numbered) : (r.live.map (·.id)).Nodup :=
  h.ascending.imp fun hlt => Nat.ne_of_lt hlt

/-- The registry `r'` comes after `r`: what is new in it got an id that was not handed out yet. -/
structure Renews (r r' : Listeners) : Prop where
  next_le : r.next ≤ r'.next
  fresh : ∀ l ∈ r'.live, l ∉ r.live → r.next ≤ l.id

namespace Renews

theorem refl (r : Listeners) : r.Renews r := ⟨Nat.le_refl _, fun _ hl hnew => absurd hl hnew⟩

theorem trans (h : r.Renews r') (h' : r'.Renews r'') : r.Renews r'' where
  next_le := Nat.le_trans h.next_le h'.next_le
  fresh l hl hnew := by
    by_cases hmid : l ∈ r'.live
    · exact h.fresh l hmid hnew
    · exact Nat.le_trans h.next_le (h'.fresh l hl hmid)

theorem add (r : Listeners) (kind : EventKind) : r.Renews (r.add kind) where
  next_le := Nat.le_succ _
  fresh l hl hnew := by
    obtain rfl := List.mem_singleton.mp ((List.mem_append.mp hl).resolve_left hnew)
    exact Nat.le_refl _

theorem remove (r : Listeners) (id : Nat) : r.Renews (r.remove id) where
  next_le := Nat.le_refl _
  fresh _ hl hnew := absurd (List.mem_filter.mp hl).1 hnew

end Renews

/-- Detaches some listeners one after the other. -/
def removeAll (r : Listeners) (gone : List Listener) : Listeners :=
  gone.foldl (fun r l => r.remove l.id) r

theorem Numbered.removeAll (h : r.Numbered) (gone : List Listener) :
    (r.removeAll gone).Numbered := by
  induction gone generalizing r with
  | nil => exact h
  | cons l rest ih => exact ih (h.remove l.id)

theorem Renews.removeAll (r : Listeners) (gone : List Listener) : r.Renews (r.removeAll gone) := by
  induction gone generalizing r with
  | nil => exact refl r
  | cons l rest ih => exact (Renews.remove r l.id).trans (ih (r.remove l.id))

/-- What stays attached is what none of the detached ids belongs to. -/
theorem live_removeAll (r : Listeners) (gone : List Listener) :
    (r.removeAll gone).live = r.live.filter fun l => l.id ∉ gone.map (·.id) := by
  induction gone generalizing r with
  | nil => exact (List.filter_eq_self.mpr fun l _ => by simp).symm
  | cons first rest ih =>
    rw [Listeners.removeAll, List.foldl_cons, ← Listeners.removeAll, ih, Listeners.remove,
      List.filter_filter]
    refine List.filter_congr fun l _ => Bool.eq_iff_iff.mpr ?_
    simp [and_comm]

/-- Detaching all listeners but the first leaves the first. -/
theorem Numbered.live_removeAll_tail {first : Listener} {rest : List Listener} (h : r.Numbered)
    (hlive : r.live = first :: rest) : (r.removeAll rest).live = [first] := by
  have hnodup := h.nodup
  rw [hlive, List.map_cons, List.nodup_cons] at hnodup
  rw [live_removeAll, hlive, List.filter_cons_of_pos (by simpa using hnodup.1), List.cons_inj_right]
  refine List.filter_eq_nil_iff.mpr fun l hl => ?_
  simpa using List.mem_map_of_mem (f := (·.id)) hl

end ScatterPick.Listeners
