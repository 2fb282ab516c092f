import Mathlib.Algebra.Ring.Parity
import Mathlib.Data.Finset.SymmDiff
import ScatterPick.Proofs.Selection.FiniteSet

/-!
# Toggling again and again

Additive gestures one after the other. In general their order matters, since a gesture whose hits
are partly selected adds them, and one whose hits are wholly selected removes them. A gesture that
hits one point at most is the symmetric difference with what it hit, so clicks commute and undo each
other. A gesture of any size that is repeated goes to and fro between two selections.
-/

namespace ScatterPick.Selection

open scoped symmDiff

/-! ## One gesture -/

/-- A gesture over selected points takes them away. -/
theorem merge_eq_difference {s hits : Selection} (h : hits.members ⊆ s.members) :
    s.merge hits true = s.difference hits := by
  rw [← members_inj, members_merge, members_difference, toggled, if_neg Bool.noConfusion, if_pos h]

/-- A gesture over any point that is not selected adds what it hits. -/
theorem merge_eq_union {s hits : Selection} (h : ¬hits.members ⊆ s.members) :
    s.merge hits true = s.union hits := by
  rw [← members_inj, members_merge, members_union, toggled, if_neg Bool.noConfusion, if_neg h]

/-- A click toggles what it hits, which is either all selected or apart from the selection. -/
theorem members_merge_click (s : Selection) {hits : Selection} (h : hits.size ≤ 1) :
    (s.merge hits true).members = s.members ∆ hits.members := by
  by_cases hsub : hits.members ⊆ s.members
  · rw [merge_eq_difference hsub, members_difference, symmDiff_of_ge hsub]
  · obtain ⟨i, hi, hnot⟩ := Finset.not_subset.mp hsub
    have hdisjoint : Disjoint s.members hits.members := by
      rw [size_eq_card] at h
      rw [Finset.disjoint_right]
      intro k hk
      rwa [Finset.card_le_one.mp h k hk i hi]
    rw [merge_eq_union hsub, members_union, Finset.symmDiff_eq_union hdisjoint]

/-! ## Clicks -/

/-- The selection after additive gestures that hit the given points, one after the other. -/
def mergeAll (s : Selection) (gestures : List Selection) : Selection :=
  gestures.foldl (fun s hits => s.merge hits true) s

theorem mergeAll_cons (s hits : Selection) (rest : List Selection) :
    s.mergeAll (hits :: rest) = (s.merge hits true).mergeAll rest := rfl

/-- After some clicks an index is selected if it was before or was hit an odd number of times, but
not both. -/
theorem mem_mergeAll {s : Selection} {clicks : List Selection}
    (hclicks : ∀ hits ∈ clicks, hits.size ≤ 1) (i : Nat) :
    i ∈ (s.mergeAll clicks).members ↔
      Xor (i ∈ s.members) (Odd (clicks.countP (i ∈ ·.members))) := by
  induction clicks generalizing s with
  | nil => simp [mergeAll, Xor]
  | cons hits rest ih =>
    have hrest : ∀ more ∈ rest, more.size ≤ 1 := fun more hmore =>
      hclicks more (List.mem_cons_of_mem _ hmore)
    rw [mergeAll_cons, ih hrest, members_merge_click s (hclicks hits (List.mem_cons_self ..)),
      Finset.mem_symmDiff, List.countP_cons]
    by_cases hi : i ∈ hits.members
    · rw [if_pos (decide_eq_true hi), Nat.odd_add_one]
      simp only [hi, Xor]
      tauto
    · rw [if_neg (mt of_decide_eq_true hi), Nat.add_zero]
      simp only [hi, Xor]
      tauto

/-- Clicks may come in any order. -/
theorem mergeAll_perm (s : Selection) {clicks others : List Selection}
    (hclicks : ∀ hits ∈ clicks, hits.size ≤ 1) (h : others.Perm clicks) :
    s.mergeAll others = s.mergeAll clicks := by
  have hothers : ∀ hits ∈ others, hits.size ≤ 1 := fun hits hmem => hclicks hits (h.mem_iff.mp hmem)
  rw [← members_inj]
  ext i
  rw [mem_mergeAll hothers, mem_mergeAll hclicks, h.countP_eq]

/-- Making the same clicks a second time takes them back. -/
theorem mergeAll_twice (s : Selection) {clicks : List Selection}
    (hclicks : ∀ hits ∈ clicks, hits.size ≤ 1) : s.mergeAll (clicks ++ clicks) = s := by
  have htwice : ∀ hits ∈ clicks ++ clicks, hits.size ≤ 1 := fun hits hmem =>
    hclicks hits ((List.mem_append.mp hmem).elim id id)
  rw [← members_inj]
  ext i
  have heven : ¬Odd (clicks.countP (i ∈ ·.members) + clicks.countP (i ∈ ·.members)) :=
    Nat.not_odd_iff_even.mpr ⟨_, rfl⟩
  rw [mem_mergeAll htwice, List.countP_append]
  simp only [heven, Xor, not_false_eq_true, and_true, false_and, or_false]

/-! ## Repeated gestures -/

/-- What was removed is added again, unless there was nothing to remove. -/
theorem merge_difference (s hits : Selection) :
    (s.difference hits).merge hits true = s.union hits := by
  by_cases hsub : hits.members ⊆ (s.difference hits).members
  · have hempty : hits.members = ∅ := by
      rw [members_difference] at hsub
      exact disjoint_self.mp (Finset.disjoint_of_subset_left hsub Finset.sdiff_disjoint)
    rw [merge_eq_difference hsub, ← members_inj, members_difference, members_difference,
      members_union, hempty, Finset.sdiff_empty, Finset.sdiff_empty, Finset.union_empty]
  · rw [merge_eq_union hsub, ← members_inj, members_union, members_difference, members_union,
      Finset.sdiff_union_self_eq_union]

/-- What was added is removed again. -/
theorem merge_union (s hits : Selection) :
    (s.union hits).merge hits true = s.difference hits := by
  have hsub : hits.members ⊆ (s.union hits).members := by
    rw [members_union]
    exact Finset.subset_union_right
  rw [merge_eq_difference hsub, ← members_inj, members_difference, members_union,
    members_difference, Finset.union_sdiff_right]

/-- From either of two selections a repeated gesture goes to and fro between them. -/
theorem iterate_merge (s hits : Selection) (n : Nat) :
    (fun t : Selection => t.merge hits true)^[n] (s.difference hits) =
        (if Even n then s.difference hits else s.union hits) ∧
      (fun t : Selection => t.merge hits true)^[n] (s.union hits) =
        if Even n then s.union hits else s.difference hits := by
  induction n with
  | zero => exact ⟨rfl, rfl⟩
  | succ n ih =>
    rw [Function.iterate_succ_apply', Function.iterate_succ_apply', ih.1, ih.2]
    by_cases heven : Even n
    · have hodd : ¬Even (n + 1) := by rwa [Nat.even_add_one, not_not]
      rw [if_pos heven, if_pos heven, if_neg hodd, if_neg hodd]
      exact ⟨merge_difference s hits, merge_union s hits⟩
    · have hsucc : Even (n + 1) := Nat.even_add_one.mpr heven
      rw [if_neg heven, if_neg heven, if_pos hsucc, if_pos hsucc]
      exact ⟨merge_union s hits, merge_difference s hits⟩

/-- The first gesture of a repetition decides which of the two selections comes first. -/
theorem members_iterate_merge (s hits : Selection) {n : Nat} (hn : 0 < n) :
    ((fun t : Selection => t.merge hits true)^[n] s).members =
      if hits.members ⊆ s.members ↔ Odd n then s.members \ hits.members
      else s.members ∪ hits.members := by
  obtain ⟨k, rfl⟩ : ∃ k, n = k + 1 := ⟨n - 1, by omega⟩
  have hodd : Odd (k + 1) ↔ Even k := by rw [Nat.odd_add_one, Nat.not_odd_iff_even]
  rw [Function.iterate_succ_apply]
  simp only [hodd]
  by_cases hsub : hits.members ⊆ s.members
  · rw [merge_eq_difference hsub, (iterate_merge s hits k).1, apply_ite members,
      members_difference, members_union]
    simp only [hsub, true_iff]
  · rw [merge_eq_union hsub, (iterate_merge s hits k).2, apply_ite members, members_difference,
      members_union]
    simp only [hsub, false_iff]
    exact (ite_not ..).symm

/-- An additive gesture that is repeated leads to the selection without what it hits and to the
selection with it in turn, starting with the former if all of it was selected and with the latter
otherwise. So two more repetitions change nothing, no index but those that are hit is ever added or
dropped, and a gesture over selected points is undone by the next. -/
theorem repeated_merge_alternates (s hits : Selection) {n : Nat} (hn : 0 < n) :
    let again := fun t : Selection => t.merge hits true
    (hits.members ⊆ s.members → (again^[n] s).members =
        if Odd n then s.members \ hits.members else s.members ∪ hits.members) ∧
      (¬hits.members ⊆ s.members → (again^[n] s).members =
        if Odd n then s.members ∪ hits.members else s.members \ hits.members) ∧
      again^[n + 2] s = again^[n] s ∧
      (∀ i ∉ hits.members, i ∈ (again^[n] s).members ↔ i ∈ s.members) ∧
      (hits.members ⊆ s.members → again (again s) = s) := by
  intro again
  have hmembers : (again^[n] s).members = _ := members_iterate_merge s hits hn
  refine ⟨fun hsub => ?_, fun hsub => ?_, ?_, fun i hi => ?_, fun hsub => ?_⟩
  · rw [hmembers]
    simp only [hsub, true_iff]
  · rw [hmembers]
    simp only [hsub, false_iff]
    exact ite_not ..
  · have hodd : Odd (n + 2) ↔ Odd n := by rw [Nat.odd_add_one, Nat.odd_add_one, not_not]
    rw [← members_inj, hmembers, members_iterate_merge s hits (by omega)]
    simp only [hodd]
  · rw [hmembers]
    split
    · simp only [Finset.mem_sdiff, hi, not_false_eq_true, and_true]
    · simp only [Finset.mem_union, hi, or_false]
  · have htwo : ¬Odd 2 := by decide
    rw [← members_inj]
    have h : (again (again s)).members = _ := members_iterate_merge s hits (n := 2) (by decide)
    rw [h]
    simp only [hsub, htwo, iff_false, not_true_eq_false, if_false, Finset.union_eq_left]

/-- A lasso that is partly selected is added whole, then removed whole. -/
theorem repeated_lasso_drops_all :
    let s := ofList [1, 2, 9]
    let lasso := ofList [2, 3]
    0 < 2 ∧ ¬lasso.members ⊆ s.members ∧
      ((fun t : Selection => t.merge lasso true)^[2] s).members = {1, 9} := by
  intro s lasso
  have hpartly : ¬lasso.members ⊆ s.members := by decide
  have h := (repeated_merge_alternates s lasso (n := 2) (by decide)).2.1 hpartly
  exact ⟨by decide, hpartly, h.trans (by decide)⟩

end ScatterPick.Selection
