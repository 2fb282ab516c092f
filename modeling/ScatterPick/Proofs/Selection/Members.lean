import Mathlib.Data.Finset.Sort
import ScatterPick.Selection

/-!
# Selections as finite sets

A selection is known by its members: binary search decides membership, selections with the same
members are equal, and each operation is the operation on sets that its name says.
-/

namespace ScatterPick

private theorem eq_take_cons_drop {xs : List Nat} {m j : Nat} (h : xs[m]? = some j) :
    xs = xs.take m ++ j :: xs.drop (m + 1) := by
  obtain ⟨hm, rfl⟩ := List.getElem?_eq_some_iff.mp h
  rw [← List.drop_eq_getElem_cons hm, List.take_append_drop]

/-- Binary search decides membership in an ascending list. -/
theorem searchIndex_iff {xs : List Nat} (h : xs.Pairwise (· < ·)) {i : Nat} :
    searchIndex xs i = true ↔ i ∈ xs := by
  fun_induction searchIndex xs i with
  | case1 xs hm =>
    have hlen : xs.length ≤ xs.length / 2 := List.getElem?_eq_none_iff.mp hm
    have hnil : xs = [] := List.length_eq_zero_iff.mp (by omega)
    simp [hnil]
  | case2 xs hm => simpa using List.mem_of_getElem? hm
  | case3 xs j hm hne hlt ih =>
    have hsplit := eq_take_cons_drop hm
    have hmem : i ∈ xs ↔ i ∈ xs.take (xs.length / 2) := by
      conv_lhs => rw [hsplit]
      rw [hsplit, List.pairwise_append, List.pairwise_cons] at h
      have hright : i ∉ xs.drop (xs.length / 2 + 1) := fun hd =>
        absurd (h.2.1.1 i hd) (by omega)
      simp [hne, hright]
    rw [hmem, ih (h.sublist (List.take_sublist ..))]
  | case4 xs j hm hne hlt ih =>
    have hsplit := eq_take_cons_drop hm
    have hmem : i ∈ xs ↔ i ∈ xs.drop (xs.length / 2 + 1) := by
      conv_lhs => rw [hsplit]
      rw [hsplit, List.pairwise_append] at h
      have hleft : i ∉ xs.take (xs.length / 2) := fun hd =>
        absurd (h.2.2 i hd j (List.mem_cons_self ..)) (by omega)
      simp [hne, hleft]
    rw [hmem, ih (h.sublist (List.drop_sublist ..))]

namespace Selection

/-- The members of a selection as a set. -/
def members (s : Selection) : Finset Nat := s.indices.toFinset

@[simp] theorem mem_members {s : Selection} {i : Nat} : i ∈ s.members ↔ i ∈ s.indices := by
  simp [members]

/-- Searching a selection decides membership. -/
@[simp] theorem contains_iff {s : Selection} {i : Nat} : s.contains i = true ↔ i ∈ s.indices :=
  searchIndex_iff s.ascending

/-- The indices of a selection are its members in ascending order. -/
theorem sort_members (s : Selection) : s.members.sort = s.indices :=
  (List.toFinset_sort (· ≤ ·) (s.ascending.imp ne_of_lt)).mpr (s.ascending.imp le_of_lt)

/-- A selection has no other content than its members. -/
theorem members_inj {s t : Selection} : s.members = t.members ↔ s = t := by
  refine ⟨fun h => ?_, congrArg members⟩
  have hlist : s.indices = t.indices := by rw [← sort_members, h, sort_members]
  cases s
  cases t
  simpa using hlist

@[simp] theorem empty_indices : Selection.empty.indices = [] := rfl

@[simp] theorem isEmpty_iff {s : Selection} : s.isEmpty = true ↔ s.indices = [] := by
  simp [isEmpty]

@[simp] theorem mem_ofList {indices : List Nat} {i : Nat} :
    i ∈ (ofList indices).indices ↔ i ∈ indices := by
  change i ∈ indices.foldr insertIndex [] ↔ i ∈ indices
  induction indices with
  | nil => rfl
  | cons j rest ih => rw [List.foldr_cons, mem_insertIndex, ih, List.mem_cons]

@[simp] theorem mem_filter {s : Selection} {keep : Nat → Bool} {i : Nat} :
    i ∈ (s.filter keep).indices ↔ i ∈ s.indices ∧ keep i = true := by
  simp [filter]

/-- Binary search of every member decides inclusion. -/
@[simp] theorem isSubset_iff {s t : Selection} : s.isSubset t = true ↔ s.members ⊆ t.members := by
  simp only [isSubset, List.all_eq_true, contains_iff, Finset.subset_iff, mem_members]

@[simp] theorem members_union (s t : Selection) :
    (s.union t).members = s.members ∪ t.members := by
  ext i
  simp [union]

@[simp] theorem members_difference (s t : Selection) :
    (s.difference t).members = s.members \ t.members := by
  ext i
  simp [difference, Bool.eq_false_iff]

/-- Only indices below the bound are kept. -/
@[simp] theorem mem_bounded {s : Selection} {bound i : Nat} :
    i ∈ (s.bounded bound).1.indices ↔ i ∈ s.indices ∧ i < bound := by
  simp [bounded]

/-- The set that a gesture leaves: what it hit, or in additive mode without a subset that was
there, or with anything else. -/
def toggled (current hits : Finset Nat) (additive : Bool) : Finset Nat :=
  if additive = false then hits
  else if hits ⊆ current then current \ hits
  else current ∪ hits

/-- Merging lists is toggling sets. -/
theorem members_merge (s incoming : Selection) (additive : Bool) :
    (s.merge incoming additive).members = toggled s.members incoming.members additive := by
  cases additive with
  | false => rfl
  | true =>
    by_cases h : incoming.members ⊆ s.members
    · simp [merge, toggled, h, isSubset_iff.mpr h]
    · have hs : incoming.isSubset s = false := by
        rw [Bool.eq_false_iff, ne_eq, isSubset_iff]
        exact h
      simp [merge, toggled, h, hs]

/-- A merge has no members but those it was given. -/
theorem mem_of_mem_merge {s incoming : Selection} {additive : Bool} {i : Nat}
    (h : i ∈ (s.merge incoming additive).indices) : i ∈ s.indices ∨ i ∈ incoming.indices := by
  rw [← mem_members, members_merge, toggled] at h
  split at h
  · exact Or.inr (mem_members.mp h)
  · split at h
    · exact Or.inl (mem_members.mp (Finset.mem_sdiff.mp h).1)
    · exact (Finset.mem_union.mp h).imp mem_members.mp mem_members.mp

end Selection

end ScatterPick
