import ScatterPick.Proofs.Geometry.Nearest

/-!
# What a gesture is to hit

The rules by which a gesture is read, as a relation between its vertices and its outcome: a click
picks the first of the closest points if it lies nearer to the first vertex than the threshold, a
drag picks the points that it encloses. Interpreting a gesture finds the one outcome that the rules
allow. The threshold may be any double, also an infinite, a negative or an undefined one, and the
length of a vector any function of its components.
-/

namespace ScatterPick

open Coordinate

/-! ## Rules -/

section Rules

variable [Coordinate Float]

/-- Whether a gesture is short enough to count as a click. -/
def Trail.IsClick (vertices : List (Point Float)) (threshold : Float) : Prop :=
  vertices.length = 1 ∨ Trail.travel vertices < threshold

/-- The outcomes that a gesture may have. -/
inductive Reads (points : List (Point Float)) (threshold : Float) :
    List (Point Float) → Outcome → Prop where
  /-- Without vertices nothing is hit. -/
  | nothing : Reads points threshold [] ⟨.click, .empty⟩
  /-- A click with no point in reach nearer than the threshold hits nothing. -/
  | missed {first : Point Float} {rest : List (Point Float)}
      (click : Trail.IsClick (first :: rest) threshold)
      (far : ∀ p ∈ points, first.inReach p = true → ¬p.distance first < threshold) :
      Reads points threshold (first :: rest) ⟨.click, .empty⟩
  /-- Any other click hits the first of the closest points. -/
  | picked {first : Point Float} {rest : List (Point Float)} {i : Nat} {d : Float}
      (click : Trail.IsClick (first :: rest) threshold)
      (near : ∃ p ∈ points, first.inReach p = true ∧ p.distance first < threshold)
      (closest : IsFirstLeast (points.map (·.distance first)) i d) :
      Reads points threshold (first :: rest) ⟨.click, .ofList [i]⟩
  /-- A drag hits the points that it encloses. -/
  | enclosed {first : Point Float} {rest : List (Point Float)} {hits : Selection}
      (drag : ¬Trail.IsClick (first :: rest) threshold)
      (members : ∀ i, i ∈ hits.indices ↔
        ∃ p, points[i]? = some p ∧ Polygon.contains (first :: rest) p = true) :
      Reads points threshold (first :: rest) ⟨.drag, hits⟩

end Rules

variable (length : Float → Float → Float)

/-! ## Clicks -/

/-- The rule for clicks is the one by which gestures are told apart. -/
theorem Trail.isClick_iff {first : Point Float} {rest : List (Point Float)} {threshold : Float} :
    letI := Coordinate.doubles length
    Trail.IsClick (first :: rest) threshold ↔
      Trail.classify (first :: rest) threshold = .click := by
  let _ := Coordinate.doubles length
  rw [Trail.IsClick, Trail.classify_eq_click_iff]
  apply or_congr
  · rw [List.length_cons]
    omega
  · exact decide_eq_true_iff.symm

/-- The closest point is nearer than a threshold if any point in reach is. -/
theorem IsFirstLeast.lt_of_near {points : List (Point Float)} {target : Point Float} {i : Nat}
    {d threshold : Float}
    (h : letI := Coordinate.doubles length; IsFirstLeast (points.map (·.distance target)) i d)
    (hnear : letI := Coordinate.doubles length
      ∃ p ∈ points, target.inReach p = true ∧ p.distance target < threshold) :
    d < threshold := by
  let _ := Coordinate.doubles length
  obtain ⟨p, hp, hreach, hlt⟩ := hnear
  obtain ⟨k, hk⟩ := List.getElem?_of_mem (List.mem_map_of_mem (f := (·.distance target)) hp)
  exact Number.double_lt_of_le_of_lt (h.least k _ hk hreach) hlt

/-- A click near the closest point picks it. -/
theorem clicked_of_near {points : List (Point Float)} {target : Point Float} {threshold : Float}
    {i : Nat} {d : Float}
    (h : letI := Coordinate.doubles length; IsFirstLeast (points.map (·.distance target)) i d)
    (hd : d < threshold) :
    letI := Coordinate.doubles length
    clicked points target threshold = .ofList [i] := by
  let _ := Coordinate.doubles length
  have hless : less d threshold = true := decide_eq_true hd
  rw [clicked, (nearest_eq_some_iff length).mpr h]
  exact if_pos hless

/-- A click that is far from every point picks none. -/
theorem clicked_of_far {points : List (Point Float)} {target : Point Float} {threshold : Float}
    (h : letI := Coordinate.doubles length
      ∀ p ∈ points, target.inReach p = true → ¬p.distance target < threshold) :
    letI := Coordinate.doubles length
    clicked points target threshold = .empty := by
  let _ := Coordinate.doubles length
  rw [clicked]
  cases hnearest : nearest points target with
  | none => rfl
  | some found =>
    obtain ⟨i, d⟩ := found
    have hleast := (nearest_eq_some_iff length).mp hnearest
    obtain ⟨p, hp, rfl⟩ := List.mem_map.mp (List.mem_of_getElem? hleast.here)
    have hless : ¬less (p.distance target) threshold = true := fun hless =>
      h p hp hleast.finite (of_decide_eq_true hless)
    exact if_neg hless

/-- Where some point is in reach, one of them is closest. -/
theorem exists_isFirstLeast {points : List (Point Float)} {target p : Point Float}
    (hp : p ∈ points)
    (hreach : letI := Coordinate.doubles length; target.inReach p = true) :
    letI := Coordinate.doubles length
    ∃ i d, IsFirstLeast (points.map (·.distance target)) i d := by
  let _ := Coordinate.doubles length
  cases hnearest : nearest points target with
  | none =>
    rw [(nearest_eq_none_iff length).mp hnearest p hp] at hreach
    cases hreach
  | some found => exact ⟨found.1, found.2, (nearest_eq_some_iff length).mp hnearest⟩

/-! ## Drags -/

/-- Fewer than three vertices enclose nothing. -/
theorem Polygon.contains_of_short {α : Type} [Coordinate α] {vertices : List (Point α)}
    (h : vertices.length < 3) (p : Point α) : Polygon.contains vertices p = false := by
  unfold Polygon.contains
  split
  · rfl
  · rw [decide_eq_false h.not_ge, Bool.false_and]

/-! ## The one outcome -/

/-- The outcome of a gesture follows the rules. -/
theorem reads_interpret (points vertices : List (Point Float)) (view : View Float)
    (tolerance : Float) :
    letI := Coordinate.doubles length
    Reads points (Trail.threshold view tolerance) vertices
      (interpret points vertices view tolerance) := by
  let _ := Coordinate.doubles length
  cases vertices with
  | nil => exact .nothing
  | cons first rest =>
    by_cases hclick : Trail.IsClick (first :: rest) (Trail.threshold view tolerance)
    · rw [interpret_of_click ((Trail.isClick_iff length).mp hclick)]
      -- If the closest point is not near enough, no other one is.
      by_cases hnear : ∃ p ∈ points, first.inReach p = true ∧
          p.distance first < Trail.threshold view tolerance
      · obtain ⟨p, hp, hreach, -⟩ := id hnear
        obtain ⟨i, d, hleast⟩ := exists_isFirstLeast length hp hreach
        rw [clicked_of_near length hleast (hleast.lt_of_near length hnear)]
        exact .picked hclick hnear hleast
      · have hfar : ∀ p ∈ points, first.inReach p = true →
            ¬p.distance first < Trail.threshold view tolerance := fun p hp hreach hlt =>
          hnear ⟨p, hp, hreach, hlt⟩
        rw [clicked_of_far length hfar]
        exact .missed hclick hfar
    · have hdrag := Trail.classify_ne_click_iff.mp ((Trail.isClick_iff length).not.mp hclick)
      rw [interpret_of_drag hdrag]
      exact .enclosed hclick fun i => mem_lassoed

/-- The rules leave a gesture one outcome. -/
theorem Reads.interpret_eq {points vertices : List (Point Float)} {view : View Float}
    {tolerance : Float} {outcome : Outcome}
    (h : letI := Coordinate.doubles length
      Reads points (Trail.threshold view tolerance) vertices outcome) :
    letI := Coordinate.doubles length
    interpret points vertices view tolerance = outcome := by
  let _ := Coordinate.doubles length
  cases h with
  | nothing => rfl
  | missed hclick hfar =>
    rw [interpret_of_click ((Trail.isClick_iff length).mp hclick), clicked_of_far length hfar]
  | picked hclick hnear hleast =>
    rw [interpret_of_click ((Trail.isClick_iff length).mp hclick),
      clicked_of_near length hleast (hleast.lt_of_near length hnear)]
  | enclosed hstroke hmembers =>
    have hdrag := Trail.classify_ne_click_iff.mp ((Trail.isClick_iff length).not.mp hstroke)
    rw [interpret_of_drag hdrag]
    refine congrArg _ (Selection.members_inj.mp ?_)
    ext i
    rw [Selection.mem_members, Selection.mem_members, mem_lassoed, hmembers]

section Consequences

variable [Coordinate Float] {points vertices : List (Point Float)} {threshold : Float}
  {outcome : Outcome}

/-- A click hits one point at most. -/
theorem Reads.size_le_one (h : Reads points threshold vertices outcome)
    (hkind : outcome.kind = .click) : outcome.hits.size ≤ 1 := by
  cases h with
  | nothing => exact Nat.zero_le 1
  | missed => exact Nat.zero_le 1
  | picked => exact Nat.le_refl 1
  | enclosed => cases hkind

/-- A single vertex is never a drag. -/
theorem Reads.click_of_single (h : Reads points threshold vertices outcome)
    (hsize : vertices.length = 1) : outcome.kind = .click := by
  cases h with
  | nothing => rfl
  | missed => rfl
  | picked => rfl
  | enclosed hdrag => exact absurd (Or.inl hsize) hdrag

/-- A drag through fewer than three vertices hits nothing. -/
theorem Reads.empty_of_short (h : Reads points threshold vertices outcome)
    (hkind : outcome.kind = .drag) (hsize : vertices.length < 3) : outcome.hits = .empty := by
  cases h with
  | enclosed _ hmembers =>
    rw [← Selection.members_inj]
    ext i
    rw [Selection.mem_members, Selection.mem_members, hmembers]
    refine iff_of_false (fun ⟨p, _, hcontains⟩ => ?_) List.not_mem_nil
    rw [Polygon.contains_of_short hsize] at hcontains
    cases hcontains
  | _ => cases hkind

end Consequences

/-- Interpreting a gesture finds the one outcome that the rules allow, its hits in ascending order
without repeats. A click hits one point at most; a gesture with a single vertex is a click whatever
the threshold is; a drag through fewer than three vertices hits nothing. The length of a vector may
be any function of its components. -/
theorem interpret_follows_rules (points vertices : List (Point Float)) (view : View Float)
    (tolerance : Float) :
    letI := Coordinate.doubles length
    let threshold := Trail.threshold view tolerance
    let outcome := interpret points vertices view tolerance
    (∀ allowed, Reads points threshold vertices allowed ↔ allowed = outcome) ∧
    outcome.hits.indices.Pairwise (· < ·) ∧
    (outcome.kind = .click → outcome.hits.size ≤ 1) ∧
    (vertices.length = 1 → outcome.kind = .click) ∧
    (outcome.kind = .drag → vertices.length < 3 → outcome.hits = .empty) := by
  let _ := Coordinate.doubles length
  intro threshold outcome
  have hrules : Reads points threshold vertices outcome := reads_interpret length ..
  refine ⟨fun allowed => ⟨fun h => (h.interpret_eq length).symm, fun h => h ▸ hrules⟩, ?_⟩
  exact ⟨outcome.hits.ascending, hrules.size_le_one, hrules.click_of_single,
    hrules.empty_of_short⟩

/-- Where the tolerance is undefined, a single vertex on a point is a click that misses it, and a
triangle around points is a drag that hits two; with a usual tolerance a short stroke picks the
first of the closest points, and a long one encloses nothing. -/
theorem interpret_of_odd_tolerance :
    let undefined : Float := 0.0 / 0.0
    let points : List (Point Float) := [⟨undefined, 1.0⟩, ⟨1.0, 1.0⟩, ⟨8.0, 8.0⟩, ⟨1.0, 1.0⟩]
    let view : View Float := ⟨⟨0.0, 10.0⟩, ⟨10.0, 0.0⟩⟩
    let triangle : List (Point Float) := [⟨0.0, 0.0⟩, ⟨4.0, 0.0⟩, ⟨0.0, 4.0⟩]
    let stroke : List (Point Float) := [⟨1.0, 1.5⟩, ⟨1.25, 1.5⟩]
    let line : List (Point Float) := [⟨0.0, 0.0⟩, ⟨9.0, 9.0⟩]
    (interpret points [⟨1.0, 1.0⟩] view undefined).kind = .click ∧
      (interpret points [⟨1.0, 1.0⟩] view undefined).hits.size ≤ 1 ∧
      (interpret points [⟨1.0, 1.0⟩] view undefined).hits = .empty ∧
      interpret points triangle view undefined = ⟨.drag, .ofList [1, 3]⟩ ∧
      Reads points (Trail.threshold view undefined) triangle ⟨.drag, .ofList [1, 3]⟩ ∧
      interpret points stroke view 0.1 = ⟨.click, .ofList [1]⟩ ∧
      Reads points (Trail.threshold view 0.1) stroke ⟨.click, .ofList [1]⟩ ∧
      (interpret points line view 0.1).kind = .drag ∧
      (interpret points line view 0.1).hits = .empty := by
  intro undefined points view triangle stroke line
  have hrules := interpret_follows_rules Number.hypot points
  have hvertex : (interpret points [⟨1.0, 1.0⟩] view undefined).kind = .click :=
    (hrules ..).2.2.2.1 rfl
  have htriangle : interpret points triangle view undefined = ⟨.drag, .ofList [1, 3]⟩ := by
    decide +kernel
  have hstroke : interpret points stroke view 0.1 = ⟨.click, .ofList [1]⟩ := by decide +kernel
  have hline : (interpret points line view 0.1).kind = .drag := by decide +kernel
  exact ⟨hvertex, (hrules ..).2.2.1 hvertex, by decide +kernel, htriangle,
    ((hrules ..).1 _).mpr htriangle.symm, hstroke, ((hrules ..).1 _).mpr hstroke.symm, hline,
    (hrules ..).2.2.2.2 hline (by decide)⟩

end ScatterPick
