import Mathlib.Algebra.Order.Group.Unbundled.Int
import Mathlib.Data.Prod.Lex
import Mathlib.Order.Compare
import Mathlib.Order.Monotone.Basic

/-!
# The order of floating-point numbers

Every number but the undefined one has a place on a line: by its sign, then by its exponent, then
by its significand. Comparison of numbers is comparison of places, so they are totally ordered up
to the two zeros, and the undefined one is neither above nor below anything.
-/

namespace ScatterPick.Number

open Float.Model

/-! ## Places -/

theorem compare_toLex {α β : Type} [Ord α] [Ord β] (a c : α) (b d : β) :
    compare (toLex (a, b)) (toLex (c, d)) = (compare a c).then (compare b d) :=
  rfl

theorem compare_natCast (m n : Nat) : compare (m : Int) (n : Int) = compare m n := by
  rw [← cmp_eq_compare, Int.natCast_strictMono.cmp_map_eq, cmp_eq_compare]

theorem compare_neg (a b : Int) : compare (-a) (-b) = (compare a b).swap := by
  have hneg : StrictAnti fun c : Int => -c := fun _ _ => Int.neg_lt_neg
  rw [← cmp_eq_compare, ← cmp_eq_compare, cmp_swap]
  exact hneg.cmp_map_eq a b

/-- The place of a number among all numbers; the undefined one has none and counts as zero. -/
def rank : UnpackedFloat → Int ×ₗ Int ×ₗ Int
  | .infinity .positive => toLex (2, toLex (0, 0))
  | .finite .positive m e _ => toLex (1, toLex (e, (m : Int)))
  | .zero _ | .notANumber => toLex (0, toLex (0, 0))
  | .finite .negative m e _ => toLex (-1, toLex (-e, -(m : Int)))
  | .infinity .negative => toLex (-2, toLex (0, 0))

theorem rank_positive {m : Nat} (e : Int) (h : 0 < m) :
    rank (.finite .positive m e h) = toLex (1, toLex (e, (m : Int))) :=
  rfl

theorem rank_negative {m : Nat} (e : Int) (h : 0 < m) :
    rank (.finite .negative m e h) = toLex (-1, toLex (-e, -(m : Int))) :=
  rfl

/-- Numbers other than the undefined one compare as their places do. -/
theorem compare_eq_rank {a b : UnpackedFloat} (ha : a.isNaN = false) (hb : b.isNaN = false) :
    a.compare b = some (compare (rank a) (rank b)) := by
  cases a with
  | notANumber => cases ha
  | infinity s =>
    cases b with
    | notANumber => cases hb
    | infinity t => cases s <;> cases t <;> rfl
    | zero t => cases s <;> rfl
    | finite t n f hn => cases s <;> cases t <;> rfl
  | zero s =>
    cases b with
    | notANumber => cases hb
    | infinity t => cases t <;> rfl
    | zero t => rfl
    | finite t n f hn => cases t <;> rfl
  | finite s m e hm =>
    cases b with
    | notANumber => cases hb
    | infinity t => cases s <;> cases t <;> rfl
    | zero t => cases s <;> rfl
    | finite t n f hn =>
      -- Of two numbers with the same sign the exponent decides, and then the significand.
      match s, t with
      | .positive, .negative => rfl
      | .negative, .positive => rfl
      | .positive, .positive =>
        rw [rank_positive, rank_positive, compare_toLex, compare_toLex, compare_natCast]
        rfl
      | .negative, .negative =>
        rw [rank_negative, rank_negative, compare_toLex, compare_toLex, compare_neg e,
          compare_neg m, compare_natCast, ← Ordering.swap_then]
        rfl

/-- The undefined number compares with nothing. -/
theorem compare_of_isNaN {a b : UnpackedFloat} (h : ¬(a.isNaN = false ∧ b.isNaN = false)) :
    a.compare b = none := by
  cases a with
  | notANumber => rfl
  | _ =>
    cases b with
    | notANumber => rfl
    | _ => exact absurd ⟨rfl, rfl⟩ h

theorem lt_iff_rank {a b : UnpackedFloat} :
    a.lt b = true ↔ (a.isNaN = false ∧ b.isNaN = false) ∧ rank a < rank b := by
  rw [UnpackedFloat.lt]
  by_cases h : a.isNaN = false ∧ b.isNaN = false
  · rw [compare_eq_rank h.1 h.2, beq_iff_eq, Option.some.injEq, compare_lt_iff_lt]
    exact (and_iff_right h).symm
  · rw [compare_of_isNaN h]
    exact iff_of_false Bool.false_ne_true fun hlt => h hlt.1

theorem le_iff_rank {a b : UnpackedFloat} :
    a.le b = true ↔ (a.isNaN = false ∧ b.isNaN = false) ∧ rank a ≤ rank b := by
  rw [UnpackedFloat.le]
  by_cases h : a.isNaN = false ∧ b.isNaN = false
  · rw [compare_eq_rank h.1 h.2, Option.any_some, ← compare_le_iff_le]
    refine Iff.trans ?_ (and_iff_right h).symm
    exact Ordering.isLE_iff_ne_gt
  · rw [compare_of_isNaN h]
    exact iff_of_false Bool.false_ne_true fun hle => h hle.1

theorem beq_iff_rank {a b : UnpackedFloat} :
    a.beq b = true ↔ (a.isNaN = false ∧ b.isNaN = false) ∧ rank a = rank b := by
  change (a.compare b == some .eq) = true ↔ _
  by_cases h : a.isNaN = false ∧ b.isNaN = false
  · rw [compare_eq_rank h.1 h.2, beq_iff_eq, Option.some.injEq, compare_eq_iff_eq]
    exact (and_iff_right h).symm
  · rw [compare_of_isNaN h]
    exact iff_of_false Bool.false_ne_true fun heq => h heq.1

/-- What lies between two finite numbers is finite. -/
theorem isFinite_of_rank {a b c : UnpackedFloat} (ha : a.isFinite = true) (hc : c.isFinite = true)
    (hb : b.isNaN = false) (hab : rank a ≤ rank b) (hbc : rank b ≤ rank c) : b.isFinite = true := by
  have hbound {d : UnpackedFloat} (hd : d.isFinite = true) :
      -1 ≤ (ofLex (rank d)).1 ∧ (ofLex (rank d)).1 ≤ 1 := by
    cases d with
    | notANumber => cases hd
    | infinity s => cases hd
    | zero s => exact ⟨(by decide : (-1 : Int) ≤ 0), (by decide : (0 : Int) ≤ 1)⟩
    | finite s m e hm =>
      have hone : (-1 : Int) ≤ 1 := by decide
      cases s with
      | positive => exact ⟨hone, le_refl 1⟩
      | negative => exact ⟨le_refl (-1), hone⟩
  have hlow := (hbound ha).1.trans (Prod.Lex.monotone_fst _ _ hab)
  have hhigh := (Prod.Lex.monotone_fst _ _ hbc).trans (hbound hc).2
  cases b with
  | notANumber => cases hb
  | infinity s =>
    cases s with
    | positive => exact absurd hhigh (by decide)
    | negative => exact absurd hlow (by decide)
  | zero s => rfl
  | finite s m e hm => rfl

/-! ## Doubles -/

/-- The place of a double on the line. -/
def place (x : Float) : Int ×ₗ Int ×ₗ Int := rank x.toModel.unpack

/-- A double is below another if both are numbers and its place is. -/
theorem double_lt_iff {x y : Float} :
    x < y ↔ (x.isNaN = false ∧ y.isNaN = false) ∧ place x < place y := by
  change decide (x.toModel.unpack.lt y.toModel.unpack = true) = true ↔ _
  rw [decide_eq_true_iff, lt_iff_rank]
  rfl

/-- A double is at most another if both are numbers and its place is. -/
theorem double_le_iff {x y : Float} :
    x ≤ y ↔ (x.isNaN = false ∧ y.isNaN = false) ∧ place x ≤ place y := by
  change decide (x.toModel.unpack.le y.toModel.unpack = true) = true ↔ _
  rw [decide_eq_true_iff, le_iff_rank]
  rfl

/-- A finite double is a number. -/
theorem isNaN_of_isFinite {x : Float} (h : x.isFinite = true) : x.isNaN = false := by
  change x.toModel.unpack.isFinite = true at h
  change x.toModel.unpack.isNaN = false
  cases hx : x.toModel.unpack with
  | notANumber =>
    rw [hx] at h
    cases h
  | _ => rfl

theorem double_le_refl {x : Float} (h : x.isNaN = false) : x ≤ x :=
  double_le_iff.mpr ⟨⟨h, h⟩, le_refl _⟩

theorem double_le_of_lt {x y : Float} (h : x < y) : x ≤ y :=
  have ⟨hnumbers, hlt⟩ := double_lt_iff.mp h
  double_le_iff.mpr ⟨hnumbers, hlt.le⟩

/-- Of two numbers one is below the other or at least as great. -/
theorem double_not_lt {x y : Float} (hx : x.isNaN = false) (hy : y.isNaN = false) :
    ¬x < y ↔ y ≤ x := by
  rw [double_lt_iff, double_le_iff, and_iff_right ⟨hx, hy⟩, and_iff_right ⟨hy, hx⟩, not_lt]

theorem double_lt_of_lt_of_le {x y z : Float} (hxy : x < y) (hyz : y ≤ z) : x < z := by
  rw [double_lt_iff] at hxy ⊢
  rw [double_le_iff] at hyz
  exact ⟨⟨hxy.1.1, hyz.1.2⟩, hxy.2.trans_le hyz.2⟩

theorem double_lt_of_le_of_lt {x y z : Float} (hxy : x ≤ y) (hyz : y < z) : x < z := by
  rw [double_lt_iff] at hyz ⊢
  rw [double_le_iff] at hxy
  exact ⟨⟨hxy.1.1, hyz.1.2⟩, hxy.2.trans_lt hyz.2⟩

theorem double_lt_irrefl (x : Float) : ¬x < x := fun h => lt_irrefl _ (double_lt_iff.mp h).2

theorem double_le_trans {x y z : Float} (hxy : x ≤ y) (hyz : y ≤ z) : x ≤ z := by
  rw [double_le_iff] at hxy hyz ⊢
  exact ⟨⟨hxy.1.1, hyz.1.2⟩, hxy.2.trans hyz.2⟩

/-- Doubles that are at most each other are equal as numbers: they may still be the two zeros. -/
theorem double_beq_of_le {x y : Float} (hxy : x ≤ y) (hyx : y ≤ x) : (x == y) = true := by
  rw [double_le_iff] at hxy hyx
  change x.toModel.unpack.beq y.toModel.unpack = true
  exact beq_iff_rank.mpr ⟨hxy.1, hxy.2.antisymm hyx.2⟩

theorem double_isFinite_of_le {x y z : Float} (hx : x.isFinite = true) (hz : z.isFinite = true)
    (hxy : x ≤ y) (hyz : y ≤ z) : y.isFinite = true := by
  rw [double_le_iff] at hxy hyz
  exact isFinite_of_rank hx hz hxy.1.2 hxy.2 hyz.2

/-! ## Singles -/

/-- Of two numbers one is below the other or at least as great. -/
theorem single_not_lt {x y : Float32} (hx : x.isNaN = false) (hy : y.isNaN = false) :
    ¬x < y ↔ y ≤ x := by
  change ¬decide (x.toModel.unpack.lt y.toModel.unpack = true) = true ↔
    decide (y.toModel.unpack.le x.toModel.unpack = true) = true
  rw [decide_eq_true_iff, decide_eq_true_iff, lt_iff_rank, le_iff_rank, and_iff_right ⟨hx, hy⟩,
    and_iff_right ⟨hy, hx⟩, not_lt]

end ScatterPick.Number
