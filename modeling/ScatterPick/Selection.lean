/-!
# Selections

A selection is a strictly ascending list of point indices, so two selections are equal as soon as
they have the same members. `merge` is the rule for a new gesture: replace, remove or add.
-/

namespace ScatterPick

/-- Inserts an index into an ascending list unless it is there. -/
def insertIndex (i : Nat) : List Nat → List Nat
  | [] => [i]
  | j :: rest =>
    if i < j then i :: j :: rest else if i = j then j :: rest else j :: insertIndex i rest

/-- Insertion adds one member. -/
theorem mem_insertIndex {i k : Nat} {xs : List Nat} :
    k ∈ insertIndex i xs ↔ k = i ∨ k ∈ xs := by
  fun_induction insertIndex i xs with
  | case1 => simp
  | case2 => simp
  | case3 => simp
  | case4 j rest _ _ ih => simp only [List.mem_cons, ih]; grind

/-- Insertion keeps a list ascending. -/
theorem insertIndex_ascending {i : Nat} {xs : List Nat} (h : xs.Pairwise (· < ·)) :
    (insertIndex i xs).Pairwise (· < ·) := by
  fun_induction insertIndex i xs with
  | case1 => simp
  | case2 j rest hij =>
    rw [List.pairwise_cons] at h ⊢
    exact ⟨fun k hk => by grind, List.pairwise_cons.2 h⟩
  | case3 => exact h
  | case4 j rest _ _ ih =>
    rw [List.pairwise_cons] at h ⊢
    exact ⟨fun k hk => by rw [mem_insertIndex] at hk; grind, ih h.2⟩

/-- Binary search in an ascending list. -/
def searchIndex (xs : List Nat) (i : Nat) : Bool :=
  match h : xs[xs.length / 2]? with
  | none => false
  | some j =>
    if i = j then true
    else if i < j then searchIndex (xs.take (xs.length / 2)) i
    else searchIndex (xs.drop (xs.length / 2 + 1)) i
termination_by xs.length
decreasing_by
  all_goals
    have := (List.getElem?_eq_some_iff.1 h).1
    simp only [List.length_take, List.length_drop]
    omega

/-- A set of point indices. -/
structure Selection where
  /-- The members in ascending order. -/
  indices : List Nat
  ascending : indices.Pairwise (· < ·)
  deriving DecidableEq

namespace Selection

/-- The selection without members. -/
def empty : Selection := ⟨[], .nil⟩

/-- The selection of the members of a list, in any order and with repeats. -/
def ofList (indices : List Nat) : Selection :=
  ⟨indices.foldr insertIndex [], by
    induction indices with
    | nil => exact .nil
    | cons i rest ih => exact insertIndex_ascending ih⟩

/-- The number of members. -/
def size (s : Selection) : Nat := s.indices.length

/-- Whether there is no member. -/
def isEmpty (s : Selection) : Bool := s.indices.isEmpty

/-- Whether an index is a member. -/
def contains (s : Selection) (i : Nat) : Bool := searchIndex s.indices i

/-- The members that a test keeps. -/
def filter (s : Selection) (keep : Nat → Bool) : Selection :=
  ⟨s.indices.filter keep, s.ascending.filter keep⟩

/-- Whether every member belongs to another selection too. -/
def isSubset (s t : Selection) : Bool := s.indices.all t.contains

/-- The members of either selection. -/
def union (s t : Selection) : Selection := ofList (s.indices ++ t.indices)

/-- The members that another selection lacks. -/
def difference (s t : Selection) : Selection := s.filter fun i => !t.contains i

/-- The members below a bound, and the number of the others. -/
def bounded (s : Selection) (bound : Nat) : Selection × Nat :=
  let kept := s.filter (· < bound)
  (kept, s.size - kept.size)

/-- The selection after a gesture that hit `incoming`: it replaces this one, or in additive mode
removes a subset and adds anything else. -/
def merge (s incoming : Selection) (additive : Bool) : Selection :=
  if !additive then incoming
  else if incoming.isSubset s then s.difference incoming
  else s.union incoming

end Selection

end ScatterPick
