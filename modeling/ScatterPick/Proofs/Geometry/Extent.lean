import ScatterPick.Proofs.Geometry.Edges
import ScatterPick.Proofs.Geometry.Hits

/-!
# A lasso stays within its extent

In exact arithmetic a lasso contains no point outside the smallest upright box around its vertices,
however it winds. Above and below the box, and to its right, no edge is crossed; to its left every
edge is crossed that has its ends on different sides, and of those a closed path has an even number.
-/

namespace ScatterPick.Polygon

variable {α : Type} [Field α] [LinearOrder α]

/-- A coordinate lies between the least and the greatest of some others, the greatest excluded. -/
def Spans (others : List α) (x : α) : Prop :=
  ∃ least greatest, others.min? = some least ∧ others.max? = some greatest ∧
    least ≤ x ∧ x < greatest

/-- The half-open box between the least and the greatest coordinates of some vertices. -/
structure InExtent (vertices : List (Point α)) (p : Point α) : Prop where
  x : Spans (vertices.map (·.x)) p.x
  y : Spans (vertices.map (·.y)) p.y

omit [Field α] in
/-- A coordinate that is neither below nor above all others lies between them. -/
theorem spans_of_mem {others : List α} {x : α} (hlow : ∃ a ∈ others, a ≤ x)
    (hhigh : ∃ b ∈ others, x < b) : Spans others x := by
  obtain ⟨a, ha, hax⟩ := hlow
  obtain ⟨b, hb, hxb⟩ := hhigh
  have hne : others ≠ [] := List.ne_nil_of_mem ha
  obtain ⟨least, hleast⟩ := Option.isSome_iff_exists.mp (List.isSome_min?_of_ne_nil hne)
  obtain ⟨greatest, hgreatest⟩ := Option.isSome_iff_exists.mp (List.isSome_max?_of_ne_nil hne)
  refine ⟨least, greatest, hleast, hgreatest, ?_, ?_⟩
  · exact ((List.min?_eq_some_iff.mp hleast).2 a ha).trans hax
  · exact hxb.trans_le ((List.max?_eq_some_iff.mp hgreatest).2 b hb)

variable [IsStrictOrderedRing α] (length : α → α → α)

/-- No vertex right of a point: no edge is crossed. -/
theorem contains_of_right {vertices : List (Point α)} {p : Point α}
    (h : ∀ v ∈ vertices, v.x ≤ p.x) :
    letI := Coordinate.exact length
    contains vertices p = false := by
  let _ := Coordinate.exact length
  refine contains_of_none length fun a ha b hb hstraddles => ?_
  obtain ⟨t, h0, h1, hpoint⟩ := exists_along_of_straddles length hstraddles
  have hmax := Point.along_x_le_max (a := b) (b := a) h0 h1
  rw [hpoint] at hmax
  rw [crosses_of_straddles hstraddles]
  exact decide_eq_false (hmax.trans (max_le (h b hb) (h a ha))).not_gt

/-- All vertices right of a point: every edge is crossed that can be. -/
theorem contains_of_left {vertices : List (Point α)} {p : Point α}
    (h : ∀ v ∈ vertices, p.x < v.x) :
    letI := Coordinate.exact length
    contains vertices p = false := by
  let _ := Coordinate.exact length
  refine contains_of_all length fun a ha b hb hstraddles => ?_
  obtain ⟨t, h0, h1, hpoint⟩ := exists_along_of_straddles length hstraddles
  have hmin := Point.min_le_along_x (a := b) (b := a) h0 h1
  rw [hpoint] at hmin
  rw [crosses_of_straddles hstraddles]
  exact decide_eq_true ((lt_min (h b hb) (h a ha)).trans_le hmin)

/-- A lasso contains points of the half-open box around its vertices only, and so selects only
such points. -/
theorem contains_within_extent (vertices : List (Point α)) :
    letI := Coordinate.exact length
    (∀ p, contains vertices p = true → InExtent vertices p) ∧
    ∀ points, ∀ i ∈ (lassoed points vertices).indices,
      ∃ p, points[i]? = some p ∧ InExtent vertices p := by
  let _ := Coordinate.exact length
  have hbox : ∀ p, contains vertices p = true → InExtent vertices p := by
    intro p hp
    have hexcept {P : Prop} (h : ¬P → contains vertices p = false) : P :=
      by_contra fun hn => Bool.true_eq_false_eq_False (hp.symm.trans (h hn))
    refine ⟨spans_of_mem (hexcept ?_) (hexcept ?_), spans_of_mem (hexcept ?_) (hexcept ?_)⟩
    all_goals
      intro hnone
      simp only [List.mem_map, exists_exists_and_eq_and, not_exists, not_and, not_le, not_lt]
        at hnone
    · exact contains_of_left length hnone
    · exact contains_of_right length hnone
    · exact contains_of_level length (.inr hnone)
    · exact contains_of_level length (.inl hnone)
  refine ⟨hbox, fun points i hi => ?_⟩
  obtain ⟨p, hpoint, hp⟩ := mem_lassoed.mp hi
  exact ⟨p, hpoint, hbox p hp⟩

/-- A lasso that crosses itself, and two points of which it encloses one. -/
theorem extent_of_crossed :
    letI := Coordinate.exact (fun a b : ℚ => |a| + |b|)
    let crossed : List (Point ℚ) := [⟨0, 0⟩, ⟨4, 4⟩, ⟨4, 0⟩, ⟨0, 4⟩]
    contains crossed ⟨1, 2⟩ = true ∧ InExtent crossed ⟨1, 2⟩ ∧
      1 ∈ (lassoed [⟨2, 4⟩, ⟨1, 2⟩] crossed).indices ∧
      ∃ p, [(⟨2, 4⟩ : Point ℚ), ⟨1, 2⟩][1]? = some p ∧ InExtent crossed p := by
  let _ := Coordinate.exact (fun a b : ℚ => |a| + |b|)
  intro crossed
  have h := contains_within_extent (fun a b : ℚ => |a| + |b|) crossed
  have hcontains : contains crossed ⟨1, 2⟩ = true := by decide +kernel
  have hselected : 1 ∈ (lassoed [⟨2, 4⟩, ⟨1, 2⟩] crossed).indices := by decide +kernel
  exact ⟨hcontains, h.1 _ hcontains, hselected, h.2 _ 1 hselected⟩

end ScatterPick.Polygon
