import ScatterPick.Geometry.Gesture
import ScatterPick.Proofs.Selection.Members

/-!
# Hits are points

Whatever a gesture hits is an index of the point list: a click takes its index from the scan of
the distances, a lasso from the numbering of the points.
-/

namespace ScatterPick

variable {α : Type} [Coordinate α]

/-- A distance that is not finite is never the best. -/
theorem closer_of_not_finite {d : α} (h : Coordinate.isFinite d = false)
    (best : Option (Nat × α)) (index : Nat) : closer best index d = best := by
  unfold closer
  rw [h]
  rfl

/-- The first finite distance is the best so far. -/
theorem closer_none {d : α} (h : Coordinate.isFinite d = true) (index : Nat) :
    closer none index d = some (index, d) := by
  unfold closer
  exact if_pos h

/-- A finite distance is the best if it is below the best so far. -/
theorem closer_some {d : α} (h : Coordinate.isFinite d = true) (i index : Nat) (b : α) :
    closer (some (i, b)) index d =
      if Coordinate.less d b = true then some (index, d) else some (i, b) := by
  unfold closer
  exact if_pos h

/-- Comparing with a new distance keeps the best so far or takes the new one. -/
theorem closer_cases {best : Option (Nat × α)} {index i : Nat} {distance d : α}
    (h : closer best index distance = some (i, d)) :
    best = some (i, d) ∨ i = index ∧ d = distance := by
  have hnew (h : some (index, distance) = some (i, d)) : i = index ∧ d = distance := by
    simp only [Option.some.injEq, Prod.mk.injEq] at h
    exact ⟨h.1.symm, h.2.symm⟩
  cases hfinite : Coordinate.isFinite distance with
  | false => exact Or.inl (closer_of_not_finite hfinite best index ▸ h)
  | true =>
    cases best with
    | none => exact Or.inr (hnew (closer_none hfinite index ▸ h))
    | some found =>
      rw [closer_some hfinite] at h
      split at h
      · exact Or.inr (hnew h)
      · exact Or.inl h

/-- A scan returns what it started with or one of the distances it passed, with its place. -/
theorem firstLeast_cases {best : Option (Nat × α)} {start i : Nat} {distances : List α} {d : α}
    (h : firstLeast best start distances = some (i, d)) :
    best = some (i, d) ∨ ∃ k, i = start + k ∧ distances[k]? = some d := by
  induction distances generalizing best start with
  | nil => exact Or.inl h
  | cons x xs ih =>
    rcases ih h with hbest | ⟨k, rfl, hk⟩
    · rcases closer_cases hbest with hb | ⟨rfl, rfl⟩
      · exact Or.inl hb
      · exact Or.inr ⟨0, rfl, rfl⟩
    · exact Or.inr ⟨k + 1, by omega, hk⟩

/-- The nearest point is a point, at the distance that is told with it. -/
theorem nearest_spec {points : List (Point α)} {target : Point α} {i : Nat} {d : α}
    (h : nearest points target = some (i, d)) :
    ∃ p, points[i]? = some p ∧ p.distance target = d := by
  rcases firstLeast_cases h with hnone | ⟨k, rfl, hk⟩
  · simp at hnone
  · rw [List.getElem?_map, Option.map_eq_some_iff] at hk
    rwa [Nat.zero_add]

/-- The nearest point is a point. -/
theorem nearest_lt {points : List (Point α)} {target : Point α} {i : Nat} {d : α}
    (h : nearest points target = some (i, d)) : i < points.length := by
  obtain ⟨p, hp, -⟩ := nearest_spec h
  exact (List.getElem?_eq_some_iff.mp hp).1

/-- A click picks points only. -/
theorem clicked_lt {points : List (Point α)} {target : Point α} {threshold : α} {i : Nat}
    (h : i ∈ (clicked points target threshold).indices) : i < points.length := by
  unfold clicked at h
  split at h
  · rename_i index distance hn
    split at h
    · rw [Selection.mem_ofList, List.mem_singleton] at h
      exact h ▸ nearest_lt hn
    · simp at h
  · simp at h

/-- A lasso selects the points that its polygon contains. -/
theorem mem_lassoed {points vertices : List (Point α)} {i : Nat} :
    i ∈ (lassoed points vertices).indices ↔
      ∃ p, points[i]? = some p ∧ Polygon.contains vertices p = true := by
  simp only [lassoed, Selection.mem_ofList, List.mem_map, List.mem_filter, Prod.exists,
    List.mem_zipIdx_iff_getElem?]
  constructor
  · rintro ⟨p, j, ⟨hp, hcontains⟩, rfl⟩
    exact ⟨p, hp, hcontains⟩
  · rintro ⟨p, hp, hcontains⟩
    exact ⟨p, i, ⟨hp, hcontains⟩, rfl⟩

/-- A lasso encloses points only. -/
theorem lassoed_lt {points vertices : List (Point α)} {i : Nat}
    (h : i ∈ (lassoed points vertices).indices) : i < points.length := by
  obtain ⟨p, hp, -⟩ := mem_lassoed.mp h
  exact (List.getElem?_eq_some_iff.mp hp).1

/-- A click has a single vertex or travels less than the threshold. -/
theorem Trail.classify_eq_click_iff {vertices : List (Point α)} {threshold : α} :
    Trail.classify vertices threshold = .click ↔
      vertices.length < 2 ∨ Coordinate.less (Trail.travel vertices) threshold = true := by
  rw [Trail.classify]
  split
  · rename_i hclick
    rw [Bool.or_eq_true, decide_eq_true_iff] at hclick
    exact iff_of_true rfl hclick
  · rename_i hdrag
    rw [Bool.or_eq_true, decide_eq_true_iff] at hdrag
    exact iff_of_false (by decide) hdrag

/-- What is no click is a drag. -/
theorem Trail.classify_ne_click_iff {vertices : List (Point α)} {threshold : α} :
    Trail.classify vertices threshold ≠ .click ↔ Trail.classify vertices threshold = .drag := by
  cases Trail.classify vertices threshold with
  | click => decide
  | drag => decide

/-- A drag has two vertices or more and no travel below the threshold. -/
theorem Trail.classify_eq_drag_iff {vertices : List (Point α)} {threshold : α} :
    Trail.classify vertices threshold = .drag ↔
      2 ≤ vertices.length ∧ Coordinate.less (Trail.travel vertices) threshold = false := by
  rw [← classify_ne_click_iff, ne_eq, classify_eq_click_iff, not_or, not_lt, Bool.not_eq_true]

/-- A click hits what is near its first vertex. -/
theorem interpret_of_click {points rest : List (Point α)} {first : Point α} {view : View α}
    {tolerance : α}
    (h : Trail.classify (first :: rest) (Trail.threshold view tolerance) = .click) :
    interpret points (first :: rest) view tolerance =
      ⟨.click, clicked points first (Trail.threshold view tolerance)⟩ := by
  simp only [interpret, h]

/-- A drag hits what its lasso encloses. -/
theorem interpret_of_drag {points rest : List (Point α)} {first : Point α} {view : View α}
    {tolerance : α}
    (h : Trail.classify (first :: rest) (Trail.threshold view tolerance) = .drag) :
    interpret points (first :: rest) view tolerance =
      ⟨.drag, lassoed points (first :: rest)⟩ := by
  simp only [interpret, h]

/-- A gesture hits points only. -/
theorem interpret_hits_lt {points vertices : List (Point α)} {view : View α} {tolerance : α}
    {i : Nat} (h : i ∈ (interpret points vertices view tolerance).hits.indices) :
    i < points.length := by
  cases vertices with
  | nil => simp [interpret] at h
  | cons first rest =>
    cases hkind : Trail.classify (first :: rest) (Trail.threshold view tolerance) with
    | click => exact clicked_lt (interpret_of_click hkind ▸ h)
    | drag => exact lassoed_lt (interpret_of_drag hkind ▸ h)

end ScatterPick
