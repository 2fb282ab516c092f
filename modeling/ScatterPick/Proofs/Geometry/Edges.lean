import Mathlib.Algebra.Order.Field.Basic
import Mathlib.Tactic.Linarith
import ScatterPick.Proofs.Geometry.Curve

/-!
# Edges on both sides of a height

An edge can only be crossed at the height of a point if its ends lie on different sides of that
height. A closed path has an even number of such edges, so a lasso of which all of them are crossed
contains the point as little as one of which none is.
-/

namespace ScatterPick

/-- The point at a share of the way between two others. -/
def Point.along {α : Type} [Field α] (a b : Point α) (share : α) : Point α :=
  ⟨a.x + share * (b.x - a.x), a.y + share * (b.y - a.y)⟩

section Share

variable {α : Type} [Field α] [LinearOrder α] [IsStrictOrderedRing α] {a b : Point α} {t : α}

/-- A point on the way between two others is not left of both. -/
theorem Point.min_le_along_x (h0 : 0 ≤ t) (h1 : t ≤ 1) : min a.x b.x ≤ (a.along b t).x := by
  change min a.x b.x ≤ a.x + t * (b.x - a.x)
  rcases le_total a.x b.x with hab | hba
  · rw [min_eq_left hab]
    exact le_add_of_nonneg_right (mul_nonneg h0 (sub_nonneg.mpr hab))
  · rw [min_eq_right hba]
    have hshare := mul_le_mul_of_nonpos_right h1 (sub_nonpos.mpr hba)
    linarith

/-- A point on the way between two others is not right of both. -/
theorem Point.along_x_le_max (h0 : 0 ≤ t) (h1 : t ≤ 1) : (a.along b t).x ≤ max a.x b.x := by
  change a.x + t * (b.x - a.x) ≤ max a.x b.x
  rcases le_total a.x b.x with hab | hba
  · rw [max_eq_right hab]
    have hshare := mul_le_mul_of_nonneg_right h1 (sub_nonneg.mpr hab)
    linarith
  · rw [max_eq_left hba]
    exact add_le_of_nonpos_right (mul_nonpos_of_nonneg_of_nonpos h0 (sub_nonpos.mpr hba))

end Share

namespace Polygon

section Path

/-- The edges along a path from a first vertex on. -/
def edges {α : Type} (first : Point α) (path : List (Point α)) : List (Point α × Point α) :=
  (first :: path).zip path

theorem edges_cons {α : Type} (first a : Point α) (path : List (Point α)) :
    edges first (a :: path) = (first, a) :: edges a path := rfl

/-- The edges along a path start at any of its vertices but the last, and end at any but the
first. -/
theorem mem_of_mem_edges_concat {α : Type} {first last : Point α} {path : List (Point α)}
    {e : Point α × Point α} (he : e ∈ edges first (path ++ [last])) :
    e.1 ∈ first :: path ∧ e.2 ∈ path ++ [last] := by
  refine ⟨?_, (List.of_mem_zip he).2⟩
  induction path generalizing first with
  | nil =>
    obtain rfl : e = (first, last) := List.mem_singleton.mp he
    exact List.mem_cons_self
  | cons a rest ih =>
    rcases List.mem_cons.mp he with rfl | hrest
    · exact List.mem_cons_self
    · exact List.mem_cons_of_mem first (ih hrest)

/-- The ends of an edge along a path are neighbours on it. -/
theorem exists_append_of_mem_edges {α : Type} {first : Point α} {path : List (Point α)}
    {e : Point α × Point α} (he : e ∈ edges first path) :
    ∃ before after, first :: path = before ++ e.1 :: e.2 :: after := by
  induction path generalizing first with
  | nil => cases he
  | cons a rest ih =>
    rcases List.mem_cons.mp he with rfl | hrest
    · exact ⟨[], rest, rfl⟩
    · obtain ⟨before, after, hsplit⟩ := ih hrest
      exact ⟨first :: before, after, by rw [hsplit, List.cons_append]⟩

variable {α : Type} [Coordinate α]

/-- Whether a vertex lies above a point. -/
def above (p v : Point α) : Bool := Coordinate.less p.y v.y

/-- Whether the ends of an edge lie on different sides of the height of a point. -/
def straddles (p a b : Point α) : Bool := above p a != above p b

/-- Of the edges with their ends on different sides those are crossed that meet the height right of
the point. -/
theorem crosses_of_straddles {p a b : Point α} (h : straddles p a b = true) :
    crosses p a b = Coordinate.less p.x (crossing p a b) := by
  change (straddles p a b && Coordinate.less p.x (crossing p a b)) = _
  rw [h, Bool.true_and]

/-- The other edges are not crossed. -/
theorem crosses_of_not_straddles {p a b : Point α} (h : straddles p a b = false) :
    crosses p a b = false := by
  change (straddles p a b && Coordinate.less p.x (crossing p a b)) = false
  rw [h, Bool.false_and]

/-- A path of which no edge is crossed. -/
theorem oddCrossings_of_none {p first : Point α} {path : List (Point α)}
    (h : ∀ e ∈ edges first path, straddles p e.2 e.1 = true → crosses p e.2 e.1 = false) :
    oddCrossings p first path = false := by
  induction path generalizing first with
  | nil => rfl
  | cons a rest ih =>
    rw [edges_cons, List.forall_mem_cons] at h
    have hfirst : crosses p a first = false := by
      cases hstraddles : straddles p a first with
      | false => exact crosses_of_not_straddles hstraddles
      | true => exact h.1 hstraddles
    rw [oddCrossings, hfirst, ih h.2, Bool.xor_false]

/-- A path of which every edge is crossed that can be: the crossings are odd exactly if the path
ends on another side than it began. -/
theorem oddCrossings_of_all {p first : Point α} {path : List (Point α)}
    (h : ∀ e ∈ edges first path, straddles p e.2 e.1 = true → crosses p e.2 e.1 = true) :
    oddCrossings p first path = (above p first != above p (path.getLastD first)) := by
  induction path generalizing first with
  | nil => simp [oddCrossings]
  | cons a rest ih =>
    rw [edges_cons, List.forall_mem_cons] at h
    have hfirst : crosses p a first = straddles p a first := by
      cases hstraddles : straddles p a first with
      | false => exact crosses_of_not_straddles hstraddles
      | true => exact h.1 hstraddles
    rw [oddCrossings, hfirst, ih h.2, List.getLastD_cons, straddles]
    cases above p first <;> cases above p a <;> simp

end Path

section Exact

variable {α : Type} [Field α] [LinearOrder α] (length : α → α → α)

/-- The ends of an edge lie on different sides of a height if one of them is above and the other
is not. -/
theorem straddles_iff {p a b : Point α} :
    letI := Coordinate.exact length
    straddles p a b = true ↔ p.y < a.y ∧ b.y ≤ p.y ∨ a.y ≤ p.y ∧ p.y < b.y := by
  let _ := Coordinate.exact length
  change (decide (p.y < a.y) != decide (p.y < b.y)) = true ↔ _
  rw [bne_iff_ne, ne_eq, decide_eq_decide, ← not_lt, ← not_lt]
  tauto

/-- A path above a point is not crossed. -/
theorem oddCrossings_of_above {p first : Point α} {path : List (Point α)}
    (h : ∀ v ∈ first :: path, p.y < v.y) :
    letI := Coordinate.exact length
    oddCrossings p first path = false := by
  let _ := Coordinate.exact length
  refine oddCrossings_of_none fun e he hstraddles => ?_
  exfalso
  obtain ⟨hstart, hstop⟩ := List.of_mem_zip he
  rcases (straddles_iff length).mp hstraddles with ⟨-, hlow⟩ | ⟨hlow, -⟩
  · exact hlow.not_gt (h _ hstart)
  · exact hlow.not_gt (h _ (List.mem_cons_of_mem first hstop))

/-- A polygon none of whose edges is crossed. -/
theorem contains_of_none {vertices : List (Point α)} {p : Point α}
    (h : letI := Coordinate.exact length
      ∀ a ∈ vertices, ∀ b ∈ vertices, straddles p b a = true → crosses p b a = false) :
    letI := Coordinate.exact length
    contains vertices p = false := by
  let _ := Coordinate.exact length
  cases vertices with
  | nil => rfl
  | cons a path =>
    rw [contains_eq_around]
    refine oddCrossings_of_none fun e he => ?_
    obtain ⟨hstart, hstop⟩ := mem_of_mem_edges_concat he
    exact h _ hstart _ (List.perm_append_singleton a path |>.mem_iff.mp hstop)

/-- A polygon all of whose edges are crossed that can be: a closed path ends where it began. -/
theorem contains_of_all {vertices : List (Point α)} {p : Point α}
    (h : letI := Coordinate.exact length
      ∀ a ∈ vertices, ∀ b ∈ vertices, straddles p b a = true → crosses p b a = true) :
    letI := Coordinate.exact length
    contains vertices p = false := by
  let _ := Coordinate.exact length
  cases vertices with
  | nil => rfl
  | cons a path =>
    have hall : ∀ e ∈ edges a (path ++ [a]),
        straddles p e.2 e.1 = true → crosses p e.2 e.1 = true := by
      intro e he
      obtain ⟨hstart, hstop⟩ := mem_of_mem_edges_concat he
      exact h _ hstart _ (List.perm_append_singleton a path |>.mem_iff.mp hstop)
    rw [contains_eq_around, oddCrossings_of_all hall, List.getLastD_concat, bne_self_eq_false]

/-- If all vertices are above a point or none is, no edge can be crossed. -/
theorem contains_of_level {vertices : List (Point α)} {p : Point α}
    (h : (∀ v ∈ vertices, v.y ≤ p.y) ∨ ∀ v ∈ vertices, p.y < v.y) :
    letI := Coordinate.exact length
    contains vertices p = false := by
  let _ := Coordinate.exact length
  refine contains_of_none length fun a ha b hb hstraddles => ?_
  exfalso
  rcases h with hbelow | habove
  · rcases (straddles_iff length).mp hstraddles with ⟨hup, -⟩ | ⟨-, hup⟩
    · exact (hbelow b hb).not_gt hup
    · exact (hbelow a ha).not_gt hup
  · rcases (straddles_iff length).mp hstraddles with ⟨-, hdown⟩ | ⟨hdown, -⟩
    · exact hdown.not_gt (habove a ha)
    · exact hdown.not_gt (habove b hb)

variable [IsStrictOrderedRing α]

/-- An edge whose ends lie on different sides meets the height of the point between its ends. -/
theorem exists_along_of_straddles {p a b : Point α}
    (h : letI := Coordinate.exact length; straddles p a b = true) :
    letI := Coordinate.exact length
    ∃ t : α, 0 ≤ t ∧ t ≤ 1 ∧ a.along b t = ⟨crossing p a b, p.y⟩ := by
  let _ := Coordinate.exact length
  have hsides := (straddles_iff length).mp h
  have hab : b.y - a.y ≠ 0 := by
    rw [sub_ne_zero]
    rintro hsame
    rw [hsame] at hsides
    rcases hsides with ⟨hup, hdown⟩ | ⟨hdown, hup⟩
    · exact absurd hup hdown.not_gt
    · exact absurd hup hdown.not_gt
  refine ⟨(p.y - a.y) / (b.y - a.y), ?_, ?_, ?_⟩
  · rcases hsides with ⟨hup, hdown⟩ | ⟨hdown, hup⟩
    · exact div_nonneg_of_nonpos (by linarith) (by linarith)
    · exact div_nonneg (by linarith) (by linarith)
  · rcases hsides with ⟨hup, hdown⟩ | ⟨hdown, hup⟩
    · rw [div_le_one_of_neg (by linarith)]
      linarith
    · rw [div_le_one (by linarith)]
      linarith
  · have hx : a.x + (p.y - a.y) / (b.y - a.y) * (b.x - a.x) = crossing p a b := by
      rw [div_mul_eq_mul_div]
      rfl
    have hy : a.y + (p.y - a.y) / (b.y - a.y) * (b.y - a.y) = p.y := by
      rw [div_mul_cancel₀ _ hab, add_sub_cancel]
    rw [Point.along, hx, hy]

end Exact

end Polygon

end ScatterPick
