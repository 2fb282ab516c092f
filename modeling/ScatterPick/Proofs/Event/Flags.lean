import Mathlib.Data.List.Induction
import Mathlib.Data.Nat.Bitwise
import ScatterPick.Event.Kind

/-!
# Flags of a kind

A kind is known by its flags: it is the set of the bits that are set in its mask.
-/

namespace ScatterPick.EventKind

variable {a b : EventKind} {n : Nat}

/-- Whether a flag is set in a kind. -/
def has (a : EventKind) (n : Nat) : Bool := a.bits.toNat.testBit n

/-- Kinds with the same flags are equal. -/
theorem ext_has (h : ∀ n, a.has n = b.has n) : a = b := by
  have hbits : a.bits = b.bits := UInt64.toNat_inj.mp (Nat.eq_of_testBit_eq h)
  cases a
  cases b
  exact congrArg mk hbits

theorem has_of_ge (h : 64 ≤ n) : a.has n = false :=
  Nat.testBit_eq_false_of_lt (a.bits.toNat_lt.trans_le (Nat.pow_le_pow_right (by decide) h))

@[simp] theorem has_empty (n : Nat) : empty.has n = false := Nat.zero_testBit n

@[simp] theorem has_union (a b : EventKind) (n : Nat) :
    (a.union b).has n = (a.has n || b.has n) := by
  simp [has, union]

@[simp] theorem has_inter (a b : EventKind) (n : Nat) :
    (a.inter b).has n = (a.has n && b.has n) := by
  simp [has, inter]

/-- A single category sets its own flag and no other. -/
theorem has_flag {bit : Nat} (h : bit < 64) (n : Nat) : (flag bit).has n = decide (bit = n) := by
  have hlt : Nat.pow 2 bit < UInt64.size := Nat.pow_lt_pow_right (by decide) h
  rw [has, flag, UInt64.toNat_ofNat_of_lt' hlt]
  exact Nat.testBit_two_pow

/-- Some flag is set in every kind but the empty one. -/
theorem ne_empty_iff : a ≠ empty ↔ ∃ n, a.has n = true := by
  constructor
  · intro h
    by_contra hnone
    refine h (ext_has fun n => ?_)
    rw [has_empty, Bool.eq_false_iff]
    exact fun hn => hnone ⟨n, hn⟩
  · rintro ⟨n, hn⟩ rfl
    rw [has_empty] at hn
    cases hn

/-- Kinds intersect if they share a flag. -/
theorem intersects_iff : a.intersects b = true ↔ ∃ n, a.has n = true ∧ b.has n = true := by
  have hinter : a.intersects b = true ↔ a.inter b ≠ empty := by
    simp [intersects, inter, empty]
  simp only [hinter, ne_empty_iff, has_inter, Bool.and_eq_true]

/-- A kind contains another one if it has all of its flags. -/
theorem contains_iff : a.contains b = true ↔ ∀ n, b.has n = true → a.has n = true := by
  have hinter : a.contains b = true ↔ a.inter b = b := by
    cases b
    simp [contains, inter]
  rw [hinter]
  constructor
  · intro h n hn
    rw [← h, has_inter, Bool.and_eq_true] at hn
    exact hn.1
  · intro h
    refine ext_has fun n => ?_
    rw [has_inter, Bool.and_eq_right_iff_imp]
    exact h n

/-- A kind contains a single category if it has its flag. -/
theorem contains_flag {bit : Nat} (h : bit < 64) (a : EventKind) :
    a.contains (flag bit) = a.has bit := by
  rw [Bool.eq_iff_iff, contains_iff]
  simp [has_flag h]

/-- The flags without a name. -/
theorem has_unnamed (a : EventKind) (n : Nat) :
    (mk a.unnamed).has n = (a.has n && !known.has n) := by
  have hbits : (mk a.unnamed).has n = (a.has n && (decide (n < 64) && !known.has n)) := by
    change (a.bits &&& ~~~known.bits).toBitVec.getLsbD n = _
    rw [UInt64.toBitVec_and, UInt64.toBitVec_not, BitVec.getLsbD_and, BitVec.getLsbD_not]
    rfl
  rw [hbits]
  by_cases h : n < 64
  · rw [decide_eq_true h, Bool.true_and]
  · rw [has_of_ge (Nat.le_of_not_lt h), Bool.false_and, Bool.false_and]

/-! ## Several kinds together -/

/-- The categories of any of some kinds. -/
def unionAll (kinds : List EventKind) : EventKind := kinds.foldl union empty

theorem has_unionAll (kinds : List EventKind) (n : Nat) :
    (unionAll kinds).has n = kinds.any (·.has n) := by
  induction kinds using List.reverseRecOn with
  | nil => exact has_empty n
  | append_singleton kinds k ih =>
    have hlast : unionAll (kinds ++ [k]) = (unionAll kinds).union k := List.foldl_append
    rw [hlast, has_union, ih]
    simp

end ScatterPick.EventKind
