import ScatterPick.Proofs.Geometry.Edges

/-!
# Sides of an edge

On which side of an edge a point lies is told by the turn from the edge to the point. A point on
the same height as an edge is left of it or right of it as the ray to the right crosses the edge or
not, and a lasso that lies on one side of a line contains no point beyond the line.
-/

namespace ScatterPick

section Turn

variable {α : Type} [Field α]

/-- The turn from the edge from `a` to `b` to a point, as twice a signed area: positive to the left
of the edge, negative to its right and zero on its line. -/
def turn (a b p : Point α) : α := (b.x - a.x) * (p.y - a.y) - (b.y - a.y) * (p.x - a.x)

@[simp] theorem turn_start (a b : Point α) : turn a b a = 0 := by
  rw [turn, sub_self, sub_self, mul_zero, mul_zero, sub_zero]

@[simp] theorem turn_stop (a b : Point α) : turn a b b = 0 := by
  rw [turn, mul_comm, sub_self]

/-- The turn in terms of the directions in which the point sees the ends of the edge. -/
theorem turn_eq_sub (a b p : Point α) :
    turn a b p = (a.x - p.x) * (b.y - p.y) - (b.x - p.x) * (a.y - p.y) := by
  rw [turn]
  ring

/-- The turn to a point on the way between two others. -/
theorem turn_along (a b c d : Point α) (t : α) :
    turn a b (c.along d t) = (1 - t) * turn a b c + t * turn a b d := by
  simp only [turn, Point.along]
  ring

/-- The way along an edge is on its line. -/
theorem turn_along_forth (a b : Point α) (t : α) : turn a b (a.along b t) = 0 := by
  rw [turn_along, turn_start, turn_stop, mul_zero, mul_zero, add_zero]

/-- The way back along an edge is on its line. -/
theorem turn_along_back (a b : Point α) (t : α) : turn a b (b.along a t) = 0 := by
  rw [turn_along, turn_start, turn_stop, mul_zero, mul_zero, add_zero]

/-- The turn to another place on the height of a point. -/
theorem turn_level (a b p : Point α) (x : α) :
    turn a b ⟨x, p.y⟩ = turn a b p + (a.y - b.y) * (x - p.x) := by
  simp only [turn]
  ring

/-- The turn from an edge on one height. -/
theorem turn_of_level {a b : Point α} (h : b.y = a.y) (p : Point α) :
    turn a b p = (b.x - a.x) * (p.y - a.y) := by
  rw [turn, h, sub_self, zero_mul, sub_zero]

variable [LinearOrder α] [IsStrictOrderedRing α]

/-- Between two points on one side of a line there is no point beyond it. -/
theorem turn_along_nonneg {a b c d : Point α} {t : α} (h0 : 0 ≤ t) (h1 : t ≤ 1)
    (hc : 0 ≤ turn a b c) (hd : 0 ≤ turn a b d) : 0 ≤ turn a b (c.along d t) := by
  rw [turn_along]
  exact add_nonneg (mul_nonneg (sub_nonneg.mpr h1) hc) (mul_nonneg h0 hd)

/-- A point on the way lies off the line if an end that takes part in it does. -/
theorem turn_along_pos {a b c d : Point α} {t : α} (h0 : 0 ≤ t) (h1 : t ≤ 1)
    (hc : 0 ≤ turn a b c) (hd : 0 ≤ turn a b d)
    (hone : t < 1 ∧ 0 < turn a b c ∨ 0 < t ∧ 0 < turn a b d) :
    0 < turn a b (c.along d t) := by
  rw [turn_along]
  rcases hone with ⟨ht, hpos⟩ | ⟨ht, hpos⟩
  · exact add_pos_of_pos_of_nonneg (mul_pos (sub_pos.mpr ht) hpos) (mul_nonneg h0 hd)
  · exact add_pos_of_nonneg_of_pos (mul_nonneg (sub_nonneg.mpr h1) hc) (mul_pos ht hpos)

end Turn

/-- An edge runs downwards, or on one height to the right: with a polygon to its left it is a left
or a bottom boundary. -/
def Descends {α : Type} [LinearOrder α] (a b : Point α) : Prop :=
  b.y < a.y ∨ b.y = a.y ∧ a.x < b.x

/-- An edge with a point off its line runs one way or the other: from an edge without a direction
nothing turns. -/
theorem descends_or_of_turn_ne_zero {α : Type} [Field α] [LinearOrder α] {a b p : Point α}
    (h : turn a b p ≠ 0) : Descends a b ∨ Descends b a := by
  rcases lt_trichotomy b.y a.y with hfall | hlevel | hrise
  · exact .inl (.inl hfall)
  · rw [turn_of_level hlevel] at h
    have hsides : b.x ≠ a.x := sub_ne_zero.mp (left_ne_zero_of_mul h)
    rcases hsides.lt_or_gt with hback | hforth
    · exact .inr (.inr ⟨hlevel.symm, hback⟩)
    · exact .inl (.inr ⟨hlevel, hforth⟩)
  · exact .inr (.inl hrise)

namespace Polygon

variable {α : Type} [Field α] [LinearOrder α] [IsStrictOrderedRing α] (length : α → α → α)

/-- The turn to a point that has an edge on its height. -/
theorem turn_eq_of_straddles {p a b : Point α}
    (h : letI := Coordinate.exact length; straddles p b a = true) :
    letI := Coordinate.exact length
    turn a b p = (a.y - b.y) * (p.x - crossing p b a) := by
  let _ := Coordinate.exact length
  obtain ⟨t, -, -, hpoint⟩ := exists_along_of_straddles length h
  have hon : turn a b ⟨crossing p b a, p.y⟩ = 0 := by
    rw [← hpoint, turn_along_back]
  rw [turn_level] at hon
  rw [eq_neg_of_add_eq_zero_left hon, ← mul_neg, neg_sub]

/-- An edge that runs downwards past a point is crossed if the point lies to its right. -/
theorem crosses_of_falling {p a b : Point α} (ha : p.y < a.y) (hb : b.y ≤ p.y) :
    letI := Coordinate.exact length
    crosses p b a = decide (turn a b p < 0) := by
  let _ := Coordinate.exact length
  have hstraddles : straddles p b a = true := (straddles_iff length).mpr (.inr ⟨hb, ha⟩)
  have hfall : 0 < a.y - b.y := sub_pos.mpr (hb.trans_lt ha)
  rw [crosses_of_straddles hstraddles, turn_eq_of_straddles length hstraddles]
  change decide (p.x < crossing p b a) = _
  rw [decide_eq_decide, ← neg_pos, ← mul_neg, mul_pos_iff_of_pos_left hfall, neg_sub, sub_pos]

/-- An edge that runs upwards past a point is crossed if the point lies to its left. -/
theorem crosses_of_rising {p a b : Point α} (ha : a.y ≤ p.y) (hb : p.y < b.y) :
    letI := Coordinate.exact length
    crosses p b a = decide (0 < turn a b p) := by
  let _ := Coordinate.exact length
  have hstraddles : straddles p b a = true := (straddles_iff length).mpr (.inl ⟨hb, ha⟩)
  have hrise : 0 < b.y - a.y := sub_pos.mpr (ha.trans_lt hb)
  rw [crosses_of_straddles hstraddles, turn_eq_of_straddles length hstraddles]
  change decide (p.x < crossing p b a) = _
  rw [decide_eq_decide, ← neg_sub b.y, neg_mul, ← mul_neg, mul_pos_iff_of_pos_left hrise, neg_sub,
    sub_pos]

/-- An edge that leaves the height of a point upwards is crossed if it leaves right of the point. -/
theorem crosses_of_leaving {p a b : Point α} (ha : a.y = p.y) (hb : p.y < b.y) :
    letI := Coordinate.exact length
    crosses p b a = decide (p.x < a.x) := by
  rw [crosses_of_rising length ha.le hb, decide_eq_decide, turn, ha, sub_self, mul_zero, zero_sub,
    ← mul_neg, neg_sub, mul_pos_iff_of_pos_left (sub_pos.mpr hb), sub_pos]

/-- An edge between two points on one side of a line meets the height of a point there too. -/
theorem turn_crossing_nonneg {p a b c d : Point α}
    (h : letI := Coordinate.exact length; straddles p c d = true)
    (hc : 0 ≤ turn a b c) (hd : 0 ≤ turn a b d) :
    letI := Coordinate.exact length
    0 ≤ turn a b p + (a.y - b.y) * (crossing p c d - p.x) := by
  let _ := Coordinate.exact length
  obtain ⟨t, h0, h1, hpoint⟩ := exists_along_of_straddles length h
  have hside := turn_along_nonneg h0 h1 hc hd
  rwa [hpoint, turn_level] at hside

/-- A lasso to the left of an edge that runs upwards, or on one height to the left, contains no
point on the line of the edge or beyond. -/
theorem contains_of_rising {vertices : List (Point α)} {p a b : Point α}
    (hleft : ∀ v ∈ vertices, 0 ≤ turn a b v) (hruns : Descends b a) (hp : turn a b p ≤ 0) :
    letI := Coordinate.exact length
    contains vertices p = false := by
  let _ := Coordinate.exact length
  rcases hruns with hrise | ⟨hlevel, hback⟩
  · -- All crossings are on the line or to its left, and the point is not.
    refine contains_of_none length fun c hc d hd hstraddles => ?_
    rw [crosses_of_straddles hstraddles]
    have hside := turn_crossing_nonneg length hstraddles (hleft d hd) (hleft c hc)
    refine decide_eq_false fun hright => ?_
    have hbeyond := mul_neg_of_neg_of_pos (sub_neg.mpr hrise) (sub_pos.mpr hright)
    linarith
  · refine contains_of_level length (.inl fun v hv => ?_)
    have hv := hleft v hv
    rw [turn_of_level hlevel.symm] at hv hp
    have hback : b.x - a.x < 0 := sub_neg.mpr hback
    have hpy := nonneg_of_mul_nonpos_right hp hback
    have hvy := nonpos_of_mul_nonneg_right hv hback
    linarith

/-- A lasso to the left of an edge that runs downwards, or on one height to the right, contains no
point beyond the line of the edge. -/
theorem contains_of_falling {vertices : List (Point α)} {p a b : Point α}
    (hleft : ∀ v ∈ vertices, 0 ≤ turn a b v) (hruns : Descends a b) (hp : turn a b p < 0) :
    letI := Coordinate.exact length
    contains vertices p = false := by
  let _ := Coordinate.exact length
  rcases hruns with hfall | ⟨hlevel, hforth⟩
  · -- All crossings are on the line or to its left, which is right of the point.
    refine contains_of_all length fun c hc d hd hstraddles => ?_
    rw [crosses_of_straddles hstraddles]
    have hside := turn_crossing_nonneg length hstraddles (hleft d hd) (hleft c hc)
    have hpos : 0 < (a.y - b.y) * (crossing p d c - p.x) := by linarith
    exact decide_eq_true (sub_pos.mp (pos_of_mul_pos_right hpos (sub_pos.mpr hfall).le))
  · refine contains_of_level length (.inr fun v hv => ?_)
    have hv := hleft v hv
    rw [turn_of_level hlevel] at hv hp
    have hforth : 0 < b.x - a.x := sub_pos.mpr hforth
    have hpy := neg_of_mul_neg_right hp hforth.le
    have hvy := nonneg_of_mul_nonneg_right hv hforth
    linarith

/-- A lasso that lies to the left of a line contains no point to its right. -/
theorem contains_of_beyond {vertices : List (Point α)} {p a b : Point α}
    (hleft : ∀ v ∈ vertices, 0 ≤ turn a b v) (hp : turn a b p < 0) :
    letI := Coordinate.exact length
    contains vertices p = false := by
  rcases descends_or_of_turn_ne_zero hp.ne with hfalls | hrises
  · exact contains_of_falling length hleft hfalls hp
  · exact contains_of_rising length hleft hrises hp.le

end Polygon

end ScatterPick
