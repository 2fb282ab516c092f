import Mathlib.Algebra.Field.Rat
import Mathlib.Algebra.Order.Group.Abs
import Mathlib.Algebra.Order.Ring.Rat
import ScatterPick.Geometry.Exact
import ScatterPick.Proofs.Geometry.Hits

/-!
# Travel

In exact arithmetic the travel of a trail is the length of a path in the Manhattan metric: it adds
up where trails are joined, is the same in both directions, and no detour makes it shorter. So a
drag remains a drag however it goes on, and a click stays near the vertex where it began.
-/

namespace ScatterPick.Trail

section Exact

variable {α : Type} [Field α] [LinearOrder α] (length : α → α → α)

/-! ## Joins and directions -/

/-- A single vertex is no travel. -/
theorem travel_singleton (p : Point α) :
    letI := Coordinate.exact length
    travel [p] = 0 :=
  rfl

/-- The travel of a trail is its first step and the travel of what follows. -/
theorem travel_cons_cons (p q : Point α) (rest : List (Point α)) :
    letI := Coordinate.exact length
    travel (p :: q :: rest) = stepLength p q + travel (q :: rest) := by
  let _ := Coordinate.exact length
  change (stepLength p q :: steps (q :: rest)).foldl (· + ·) 0 =
    stepLength p q + (steps (q :: rest)).foldl (· + ·) 0
  rw [← List.sum_eq_foldl, ← List.sum_eq_foldl, List.sum_cons]

/-- The travel of two trails that are joined at a common vertex. -/
theorem travel_join (left right : List (Point α)) (v : Point α) :
    letI := Coordinate.exact length
    travel (left ++ v :: right) = travel (left ++ [v]) + travel (v :: right) := by
  let _ := Coordinate.exact length
  match left with
  | [] => exact (zero_add _).symm
  | [p] =>
    change travel (p :: v :: right) = travel [p, v] + travel (v :: right)
    rw [travel_cons_cons, travel_cons_cons, travel_singleton, add_zero]
  | p :: q :: left =>
    have hrest := travel_join (q :: left) right v
    rw [List.cons_append, List.cons_append] at hrest
    simp only [List.cons_append, travel_cons_cons]
    rw [hrest, add_assoc]

theorem stepLength_comm (p q : Point α) :
    letI := Coordinate.exact length
    stepLength p q = stepLength q p := by
  change |q.x - p.x| + |q.y - p.y| = |p.x - q.x| + |p.y - q.y|
  rw [abs_sub_comm, abs_sub_comm q.y]

/-- The way back is as long as the way there. -/
theorem travel_reverse (path : List (Point α)) :
    letI := Coordinate.exact length
    travel path.reverse = travel path := by
  let _ := Coordinate.exact length
  match path with
  | [] => rfl
  | [p] => rfl
  | p :: q :: rest =>
    have hrest := travel_reverse (q :: rest)
    rw [List.reverse_cons] at hrest
    rw [List.reverse_cons, List.reverse_cons, List.append_assoc, List.singleton_append,
      travel_join, hrest, travel_cons_cons, travel_cons_cons, travel_singleton, add_zero,
      stepLength_comm, add_comm]

/-! ## Detours -/

variable [IsStrictOrderedRing α]

/-- A step to the same place has no length. -/
theorem stepLength_self (p : Point α) :
    letI := Coordinate.exact length
    stepLength p p = 0 := by
  change |p.x - p.x| + |p.y - p.y| = 0
  rw [sub_self, sub_self, abs_zero, add_zero]

theorem stepLength_nonneg (p q : Point α) :
    letI := Coordinate.exact length
    0 ≤ stepLength p q :=
  add_nonneg (abs_nonneg _) (abs_nonneg _)

/-- A step through another place is no shorter. -/
theorem stepLength_triangle (p q r : Point α) :
    letI := Coordinate.exact length
    stepLength p r ≤ stepLength p q + stepLength q r := by
  change |r.x - p.x| + |r.y - p.y| ≤ |q.x - p.x| + |q.y - p.y| + (|r.x - q.x| + |r.y - q.y|)
  have hx : |r.x - p.x| ≤ |r.x - q.x| + |q.x - p.x| := abs_sub_le ..
  have hy : |r.y - p.y| ≤ |r.y - q.y| + |q.y - p.y| := abs_sub_le ..
  refine (add_le_add hx hy).trans_eq ?_
  rw [add_add_add_comm, add_comm]

/-- A trail that starts at another vertex first is no shorter. -/
theorem travel_le_cons (p : Point α) (path : List (Point α)) :
    letI := Coordinate.exact length
    travel path ≤ travel (p :: path) := by
  let _ := Coordinate.exact length
  cases path with
  | nil => exact le_refl _
  | cons q rest =>
    rw [travel_cons_cons]
    exact le_add_of_nonneg_left (stepLength_nonneg length p q)

/-- A trail that passes another vertex after its first one is no shorter. -/
theorem travel_cons_le (p q : Point α) (path : List (Point α)) :
    letI := Coordinate.exact length
    travel (p :: path) ≤ travel (p :: q :: path) := by
  let _ := Coordinate.exact length
  cases path with
  | nil =>
    rw [travel_cons_cons, travel_singleton, travel_singleton, add_zero]
    exact stepLength_nonneg length p q
  | cons r rest =>
    rw [travel_cons_cons, travel_cons_cons, travel_cons_cons, ← add_assoc]
    exact add_le_add_left (stepLength_triangle length p q r) _

/-- More vertices after the first one make a trail no shorter. -/
theorem travel_cons_le_of_sublist {path longer : List (Point α)} (h : path.Sublist longer)
    (p : Point α) :
    letI := Coordinate.exact length
    travel (p :: path) ≤ travel (p :: longer) := by
  let _ := Coordinate.exact length
  -- The vertex in front changes from step to step, so it stays general.
  induction h generalizing p with
  | slnil => exact le_refl _
  | @cons path longer q _ ih =>
    refine (travel_cons_le length p q path).trans ?_
    rw [travel_cons_cons, travel_cons_cons]
    exact add_le_add_right (ih q) _
  | @cons_cons path longer q _ ih =>
    rw [travel_cons_cons, travel_cons_cons]
    exact add_le_add_right (ih q) _

/-- More vertices make a trail no shorter, wherever they are put in. -/
theorem travel_le_of_sublist {path longer : List (Point α)} (h : path.Sublist longer) :
    letI := Coordinate.exact length
    travel path ≤ travel longer := by
  let _ := Coordinate.exact length
  induction h with
  | slnil => exact le_refl _
  | cons q _ ih => exact ih.trans (travel_le_cons length q _)
  | cons_cons q h _ => exact travel_cons_le_of_sublist length h q

theorem travel_nonneg (path : List (Point α)) :
    letI := Coordinate.exact length
    0 ≤ travel path :=
  travel_le_of_sublist length (List.nil_sublist path)

/-- A trail is at least as long as any two of its vertices are apart. -/
theorem stepLength_le_travel {path : List (Point α)} {p q : Point α} (hp : p ∈ path)
    (hq : q ∈ path) :
    letI := Coordinate.exact length
    stepLength p q ≤ travel path := by
  let _ := Coordinate.exact length
  have hstep {p q : Point α} (h : [p, q].Sublist path) : stepLength p q ≤ travel path := by
    have hpair : travel [p, q] = stepLength p q := by
      rw [travel_cons_cons, travel_singleton, add_zero]
    exact hpair ▸ travel_le_of_sublist length h
  -- Where `q` stands before `p`, they are met in the other order.
  obtain ⟨before, after, rfl⟩ := List.append_of_mem hp
  rcases List.mem_append.mp hq with hbefore | hafter
  · have hback : [q, p].Sublist (before ++ p :: after) :=
      (List.singleton_sublist.mpr hbefore).append
        (List.singleton_sublist.mpr (List.mem_cons_self ..))
    rw [stepLength_comm]
    exact hstep hback
  · rcases List.mem_cons.mp hafter with rfl | hafter
    · rw [stepLength_self]
      exact travel_nonneg ..
    · have hforth : [p, q].Sublist (p :: after) :=
        (List.singleton_sublist.mpr hafter).cons_cons p
      exact hstep (hforth.trans (List.sublist_append_right ..))

/-! ## Clicks and drags -/

/-- A drag remains a drag whatever vertices are added to it. -/
theorem classify_of_sublist {path longer : List (Point α)} {threshold : α}
    (h : path.Sublist longer) :
    letI := Coordinate.exact length
    classify path threshold = .drag → classify longer threshold = .drag := by
  let _ := Coordinate.exact length
  intro hdrag
  obtain ⟨hsize, htravel⟩ := classify_eq_drag_iff.mp hdrag
  have hthreshold : threshold ≤ travel path := not_lt.mp (of_decide_eq_false htravel)
  exact classify_eq_drag_iff.mpr ⟨hsize.trans h.length_le,
    decide_eq_false (hthreshold.trans (travel_le_of_sublist length h)).not_gt⟩

omit [IsStrictOrderedRing α] in
/-- A click with two vertices or more travels less than the threshold. -/
theorem travel_lt_of_click {path : List (Point α)} {threshold : α} (hsize : 2 ≤ path.length) :
    letI := Coordinate.exact length
    classify path threshold = .click → travel path < threshold := by
  let _ := Coordinate.exact length
  intro hclick
  have hless := (classify_eq_click_iff.mp hclick).resolve_left hsize.not_gt
  exact of_decide_eq_true hless

/-- The travel of trails that are joined adds up, more vertices never make it less, both directions
are equally long, and no two vertices are farther apart. So a drag remains a drag whatever vertices
are added to it, and a click with two vertices or more stays within the threshold of the first. -/
theorem travel_is_path_length (path : List (Point α)) :
    letI := Coordinate.exact length
    (∀ v more, travel (path ++ v :: more) = travel (path ++ [v]) + travel (v :: more)) ∧
    (∀ more, travel path ≤ travel (path ++ more)) ∧
    (∀ v more, travel (path ++ more) ≤ travel (path ++ v :: more)) ∧
    travel path.reverse = travel path ∧
    (∀ p ∈ path, ∀ q ∈ path, stepLength p q ≤ travel path) ∧
    (∀ threshold longer, path.Sublist longer →
      classify path threshold = .drag → classify longer threshold = .drag) ∧
    ∀ threshold first, 2 ≤ path.length → path.head? = some first →
      classify path threshold = .click → ∀ v ∈ path, stepLength first v < threshold := by
  let _ := Coordinate.exact length
  refine ⟨fun v more => travel_join length path more v, fun more => ?_, fun v more => ?_,
    travel_reverse length path, fun p hp q hq => stepLength_le_travel length hp hq,
    fun threshold longer h => classify_of_sublist length h, ?_⟩
  · exact travel_le_of_sublist length (List.sublist_append_left path more)
  · exact travel_le_of_sublist length ((List.sublist_cons_self v more).append_left path)
  · intro threshold first hsize hfirst hclick v hv
    have hfar : stepLength first v ≤ travel path :=
      stepLength_le_travel length (List.mem_of_mem_head? hfirst) hv
    exact hfar.trans_lt (travel_lt_of_click length hsize hclick)

/-- A stroke to a place and back: a drag for its own length, also if it takes a detour, and a click
for a greater threshold. -/
theorem travel_of_stroke :
    letI := Coordinate.exact (fun a b : ℚ => |a| + |b|)
    let stroke : List (Point ℚ) := [⟨0, 0⟩, ⟨1, -1⟩, ⟨0, 0⟩]
    let detour : List (Point ℚ) := [⟨0, 0⟩, ⟨3, 0⟩, ⟨1, -1⟩, ⟨0, 0⟩, ⟨0, 5⟩]
    travel stroke = 4 ∧ travel (stroke ++ [⟨2, 0⟩, ⟨2, 1⟩]) =
        travel (stroke ++ [⟨2, 0⟩]) + travel [⟨2, 0⟩, ⟨2, 1⟩] ∧
      stroke.Sublist detour ∧ classify stroke 4 = .drag ∧ classify detour 4 = .drag ∧
      2 ≤ stroke.length ∧ stroke.head? = some ⟨0, 0⟩ ∧ classify stroke 5 = .click ∧
      ∀ v ∈ stroke, stepLength ⟨0, 0⟩ v < 5 := by
  let _ := Coordinate.exact (fun a b : ℚ => |a| + |b|)
  intro stroke detour
  obtain ⟨hjoin, -, -, -, -, hdrag, hclick⟩ :=
    travel_is_path_length (fun a b : ℚ => |a| + |b|) stroke
  have hstroke : classify stroke 4 = .drag := by decide +kernel
  have hshort : classify stroke 5 = .click := by decide +kernel
  have hdetour : stroke.Sublist detour := by decide +kernel
  exact ⟨by decide +kernel, hjoin ⟨2, 0⟩ [⟨2, 1⟩], hdetour, hstroke,
    hdrag 4 detour hdetour hstroke, by decide, rfl, hshort,
    hclick 5 ⟨0, 0⟩ (by decide) rfl hshort⟩

end Exact

end ScatterPick.Trail
