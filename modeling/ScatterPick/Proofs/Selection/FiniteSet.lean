import Mathlib.Data.List.Destutter
import Mathlib.Data.List.Sort
import ScatterPick.Proofs.Selection.Members

/-!
# Faithful finite sets

Selections stand for finite sets of indices one to one. The indices of a selection are the members
of its set in ascending order, whatever it was made from, so equal sets are equal selections. Every
operation yields the selection of the set that it is named for.
-/

namespace ScatterPick.Selection

/-! ## Building -/

theorem members_ofList (indices : List Nat) : (ofList indices).members = indices.toFinset := by
  ext i
  rw [mem_members, mem_ofList, List.mem_toFinset]

/-- A list is put in order and loses its repeats. -/
theorem indices_ofList (indices : List Nat) : (ofList indices).indices = indices.toFinset.sort := by
  rw [← members_ofList, sort_members]

/-- Sorting a list and dropping every entry that equals the one before it gives the same. -/
theorem sort_toFinset_eq_destutter (indices : List Nat) :
    indices.toFinset.sort = (indices.mergeSort (· ≤ ·)).destutter (· ≠ ·) := by
  have hsorted : (indices.mergeSort (· ≤ ·)).Pairwise (· ≤ ·) := List.pairwise_mergeSort' (· ≤ ·) _
  have hmembers : (indices.mergeSort (· ≤ ·)).dedup.toFinset = indices.toFinset := by
    ext i
    simp only [List.mem_toFinset, List.mem_dedup, List.mem_mergeSort]
  rw [hsorted.destutter_eq_dedup, ← hmembers]
  apply (List.toFinset_sort (· ≤ ·) (List.nodup_dedup _)).mpr
  exact hsorted.sublist (List.dedup_sublist _)

/-- Lists with the same entries give the same selection. -/
theorem ofList_eq_iff {xs ys : List Nat} : ofList xs = ofList ys ↔ ∀ i, i ∈ xs ↔ i ∈ ys := by
  rw [← members_inj, members_ofList, members_ofList, Finset.ext_iff]
  simp only [List.mem_toFinset]

/-- Every selection is built from its own indices. -/
theorem ofList_indices (s : Selection) : ofList s.indices = s := by
  rw [← members_inj]
  ext i
  rw [mem_members, mem_ofList, mem_members]

/-! ## Counting -/

theorem size_eq_card (s : Selection) : s.size = s.members.card :=
  (List.toFinset_card_of_nodup (s.ascending.imp ne_of_lt)).symm

theorem members_bounded (s : Selection) (bound : Nat) :
    (s.bounded bound).1.members = {i ∈ s.members | i < bound} := by
  ext i
  rw [mem_members, mem_bounded, Finset.mem_filter, mem_members]

/-- The number that is told of a bounded selection is the number of members it lost. -/
theorem bounded_dropped (s : Selection) (bound : Nat) :
    (s.bounded bound).2 = {i ∈ s.members | bound ≤ i}.card := by
  have hkept : (s.bounded bound).1.size = {i ∈ s.members | i < bound}.card := by
    rw [size_eq_card, members_bounded]
  have hall := Finset.card_filter_add_card_filter_not (s := s.members) (· < bound)
  simp only [not_lt] at hall
  change s.size - (s.bounded bound).1.size = _
  rw [hkept, size_eq_card, ← hall, Nat.add_sub_cancel_left]

/-! ## Faithfulness -/

/-- A selection of a known set lists it in ascending order. -/
theorem indices_of_members {s : Selection} {members : Finset Nat} (h : s.members = members) :
    s.indices = members.sort := by
  rw [← h, sort_members]

/-- Selections are finite sets. They are built by sorting and dropping repeats, and two lists give
the same selection exactly if they have the same entries; every selection arises in this way. Two
selections are equal exactly if their sets are. Searching decides membership and inclusion, and
each operation lists the set that it stands for in ascending order. -/
theorem selection_is_finite_set :
    (∀ xs : List Nat, (ofList xs).indices = xs.toFinset.sort ∧
      (ofList xs).indices = (xs.mergeSort (· ≤ ·)).destutter (· ≠ ·)) ∧
    (∀ xs ys : List Nat, ofList xs = ofList ys ↔ ∀ i, i ∈ xs ↔ i ∈ ys) ∧
    (∀ s : Selection, ofList s.indices = s) ∧
    ∀ s t : Selection,
      (s = t ↔ s.members = t.members) ∧
      (∀ i, s.contains i = true ↔ i ∈ s.members) ∧
      (s.isSubset t = true ↔ s.members ⊆ t.members) ∧
      (s.union t).indices = (s.members ∪ t.members).sort ∧
      (s.difference t).indices = (s.members \ t.members).sort ∧
      (∀ bound, (s.bounded bound).1.indices = {i ∈ s.members | i < bound}.sort ∧
        (s.bounded bound).2 = {i ∈ s.members | bound ≤ i}.card) ∧
      ∀ additive, (s.merge t additive).indices = (toggled s.members t.members additive).sort := by
  refine ⟨fun xs => ⟨indices_ofList xs, ?_⟩, fun xs ys => ofList_eq_iff, ofList_indices, ?_⟩
  · rw [indices_ofList, sort_toFinset_eq_destutter]
  · intro s t
    refine ⟨members_inj.symm, fun i => contains_iff.trans mem_members.symm, isSubset_iff, ?_⟩
    refine ⟨indices_of_members (members_union s t), indices_of_members (members_difference s t), ?_⟩
    constructor
    · intro bound
      exact ⟨indices_of_members (members_bounded s bound), bounded_dropped s bound⟩
    · intro additive
      exact indices_of_members (members_merge s t additive)

end ScatterPick.Selection
