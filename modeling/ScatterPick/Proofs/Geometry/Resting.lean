import ScatterPick.Proofs.Geometry.Curve
import ScatterPick.Proofs.Geometry.Travel

/-!
# Gestures on which the pointer rests

A pointer that rests for some frames repeats a vertex. In exact arithmetic this changes nothing
about what a gesture selects: the repeats add nothing to its travel and no edge to its lasso. Only
a single vertex becomes a drag by resting where the threshold is not positive, and then neither the
click nor the lasso selects anything.
-/

namespace ScatterPick

/-- The vertices of a gesture with the number of frames for which the pointer rested at each. -/
def rested {α : Type} (visits : List (Point α × Nat)) : List (Point α) :=
  visits.flatMap fun visit => List.replicate (visit.2 + 1) visit.1

section Rest

variable {α : Type}

theorem rested_cons (v : Point α) (frames : Nat) (visits : List (Point α × Nat)) :
    rested ((v, frames) :: visits) = v :: (List.replicate frames v ++ rested visits) := by
  rw [rested, List.flatMap_cons, List.replicate_succ, List.cons_append]
  rfl

/-- Resting leaves no vertex out. -/
theorem length_le_length_rested (visits : List (Point α × Nat)) :
    visits.length ≤ (rested visits).length := by
  induction visits with
  | nil => exact Nat.le_refl 0
  | cons visit visits ih =>
    rw [rested_cons, List.length_cons, List.length_cons, List.length_append]
    omega

end Rest

section Crossings

variable {α : Type} [Coordinate α]

/-- The edges from a vertex to itself are not crossed. -/
theorem oddCrossings_replicate (p v : Point α) (frames : Nat) (path : List (Point α)) :
    Polygon.oddCrossings p v (List.replicate frames v ++ path) = Polygon.oddCrossings p v path := by
  induction frames with
  | zero => rfl
  | succ frames ih =>
    rw [List.replicate_succ, List.cons_append, Polygon.oddCrossings, Polygon.crosses_self,
      Bool.false_xor, ih]

/-- Resting adds no crossings. -/
theorem oddCrossings_rested (p previous : Point α) (visits : List (Point α × Nat))
    (more : List (Point α)) :
    Polygon.oddCrossings p previous (rested visits ++ more) =
      Polygon.oddCrossings p previous (visits.map (·.1) ++ more) := by
  induction visits generalizing previous with
  | nil => rfl
  | cons visit visits ih =>
    obtain ⟨v, frames⟩ := visit
    rw [rested_cons, List.cons_append, List.append_assoc, Polygon.oddCrossings,
      oddCrossings_replicate, ih]
    rfl

end Crossings

section Exact

variable {α : Type} [Field α] [LinearOrder α] (length : α → α → α)

/-- A lasso contains the same points if the pointer rested on it. -/
theorem contains_rested (visits : List (Point α × Nat)) (p : Point α) :
    letI := Coordinate.exact length
    Polygon.contains (rested visits) p = Polygon.contains (visits.map (·.1)) p := by
  let _ := Coordinate.exact length
  cases visits with
  | nil => rfl
  | cons visit visits =>
    obtain ⟨v, frames⟩ := visit
    rw [rested_cons, Polygon.contains_eq_around, List.append_assoc, oddCrossings_replicate,
      oddCrossings_rested, List.map_cons, Polygon.contains_eq_around]

/-- A lasso around a single vertex selects nothing. -/
theorem lassoed_of_one (points : List (Point α)) (v : Point α) :
    letI := Coordinate.exact length
    lassoed points [v] = .empty := by
  let _ := Coordinate.exact length
  have hnone (p : Point α) : Polygon.contains [v] p = false := rfl
  rw [lassoed]
  simp only [hnone, List.filter_false]
  rfl

/-- Without a positive threshold a click selects nothing: no distance is negative. -/
theorem clicked_of_nonpos (hlength : ∀ a b, 0 ≤ length a b) {threshold : α}
    (hthreshold : threshold ≤ 0) (points : List (Point α)) (target : Point α) :
    letI := Coordinate.exact length
    clicked points target threshold = .empty := by
  let _ := Coordinate.exact length
  unfold clicked
  split
  · rename_i index distance hnearest
    obtain ⟨p, -, hdistance⟩ := nearest_spec hnearest
    have hpos : threshold ≤ distance := hthreshold.trans (hdistance ▸ hlength _ _)
    have hfar : Coordinate.less distance threshold = false := decide_eq_false hpos.not_gt
    rw [hfar]
    rfl
  · rfl

namespace Trail

variable [IsStrictOrderedRing α]

/-- A step to the same place is no travel. -/
theorem travel_cons_self (p : Point α) (rest : List (Point α)) :
    letI := Coordinate.exact length
    travel (p :: p :: rest) = travel (p :: rest) := by
  rw [travel_cons_cons, stepLength_self, zero_add]

/-- The steps from a vertex to itself are no travel. -/
theorem travel_replicate (v : Point α) (frames : Nat) (rest : List (Point α)) :
    letI := Coordinate.exact length
    travel (v :: (List.replicate frames v ++ rest)) = travel (v :: rest) := by
  let _ := Coordinate.exact length
  induction frames with
  | zero => rfl
  | succ frames ih => rw [List.replicate_succ, List.cons_append, travel_cons_self, ih]

/-- Resting is no travel. -/
theorem travel_rested (visits : List (Point α × Nat)) :
    letI := Coordinate.exact length
    travel (rested visits) = travel (visits.map (·.1)) := by
  let _ := Coordinate.exact length
  induction visits with
  | nil => rfl
  | cons visit visits ih =>
    obtain ⟨v, frames⟩ := visit
    rw [rested_cons, travel_replicate]
    cases visits with
    | nil => rfl
    | cons next visits =>
      rw [rested_cons, List.map_cons] at ih
      rw [rested_cons, List.map_cons, List.map_cons]
      rw [travel_cons_cons, travel_cons_cons, ih]

/-- A gesture through two or more vertices is read the same if the pointer rested. -/
theorem classify_rested {visits : List (Point α × Nat)} (hsize : 2 ≤ visits.length)
    (threshold : α) :
    letI := Coordinate.exact length
    classify (rested visits) threshold = classify (visits.map (·.1)) threshold := by
  let _ := Coordinate.exact length
  have hrested : 2 ≤ (rested visits).length := hsize.trans (length_le_length_rested visits)
  have hmap : 2 ≤ (visits.map (·.1)).length := by rwa [List.length_map]
  simp only [classify, travel_rested, hrested.not_gt, hmap.not_gt]

end Trail

variable [IsStrictOrderedRing α]

/-- A single vertex at which the pointer rests becomes a drag only if no distance is below the
threshold, and around it there is nothing to enclose. -/
theorem hits_rested_at_one (hlength : ∀ a b, 0 ≤ length a b) (points : List (Point α))
    (v : Point α) (frames : Nat) (view : View α) (tolerance : α) :
    letI := Coordinate.exact length
    (interpret points (rested [(v, frames)]) view tolerance).hits =
      clicked points v (Trail.threshold view tolerance) := by
  let _ := Coordinate.exact length
  have hcons : rested [(v, frames)] = v :: (List.replicate frames v ++ rested []) :=
    rested_cons v frames []
  cases hkind : Trail.classify (rested [(v, frames)]) (Trail.threshold view tolerance) with
  | click =>
    rw [hcons] at hkind ⊢
    rw [interpret_of_click hkind]
  | drag =>
    have htravel := (Trail.classify_eq_drag_iff.mp hkind).2
    rw [Trail.travel_rested] at htravel
    have hthreshold : Trail.threshold view tolerance ≤ 0 := not_lt.mp (of_decide_eq_false htravel)
    have hlasso : lassoed points (rested [(v, frames)]) = .empty :=
      (lassoed_congr (contains_rested length [(v, frames)]) points).trans
        (lassoed_of_one length points v)
    rw [clicked_of_nonpos length hlength hthreshold]
    rw [hcons] at hkind hlasso ⊢
    rw [interpret_of_drag hkind, hlasso]

/-- A gesture selects the same points however long the pointer rested at its vertices, and it is
read the same unless it has a single vertex. -/
theorem interpret_rested (hlength : ∀ a b, 0 ≤ length a b) (points : List (Point α))
    (visits : List (Point α × Nat)) (view : View α) (tolerance : α) :
    letI := Coordinate.exact length
    let vertices := visits.map (·.1)
    (interpret points (rested visits) view tolerance).hits =
      (interpret points vertices view tolerance).hits ∧
    (2 ≤ vertices.length →
      (interpret points (rested visits) view tolerance).kind =
        (interpret points vertices view tolerance).kind) := by
  let _ := Coordinate.exact length
  match visits with
  | [] => exact ⟨rfl, fun _ => rfl⟩
  | [(v, frames)] =>
    have hclick : Trail.classify [v] (Trail.threshold view tolerance) = .click := rfl
    refine ⟨?_, fun hsize => absurd hsize (Nat.lt_irrefl 1)⟩
    rw [hits_rested_at_one length hlength]
    exact (congrArg Outcome.hits (interpret_of_click hclick)).symm
  | (v, frames) :: next :: visits =>
    intro vertices
    have hsize : 2 ≤ ((v, frames) :: next :: visits).length := by simp
    have hsame := Trail.classify_rested length hsize (Trail.threshold view tolerance)
    have hlasso : lassoed points (rested ((v, frames) :: next :: visits)) =
      lassoed points vertices := lassoed_congr (contains_rested length _) points
    rw [rested_cons] at hsame hlasso ⊢
    cases hkind : Trail.classify vertices (Trail.threshold view tolerance) with
    | click =>
      have hplain : interpret points vertices view tolerance = _ := interpret_of_click hkind
      rw [interpret_of_click (hsame.trans hkind), hplain]
      exact ⟨rfl, fun _ => rfl⟩
    | drag =>
      have hplain : interpret points vertices view tolerance = _ := interpret_of_drag hkind
      rw [interpret_of_drag (hsame.trans hkind), hplain, hlasso]
      exact ⟨rfl, fun _ => rfl⟩

/-- A triangle drawn with rests at two of its corners, and a single vertex whose rest makes it a
drag where the threshold is zero. -/
theorem interpret_of_rested_triangle :
    letI := Coordinate.exact (fun a b : ℚ => |a| + |b|)
    let points : List (Point ℚ) := [⟨1, 1⟩, ⟨1, 5⟩]
    let visits : List (Point ℚ × Nat) := [(⟨0, 0⟩, 2), (⟨4, 0⟩, 0), (⟨0, 4⟩, 1)]
    let view : View ℚ := ⟨⟨0, 10⟩, ⟨0, 10⟩⟩
    (∀ a b : ℚ, 0 ≤ |a| + |b|) ∧
      (interpret points (rested visits) view (1 / 20)).hits = .ofList [0] ∧
      (interpret points (rested visits) view (1 / 20)).kind = .drag ∧
      (interpret points (rested [(⟨1, 1⟩, 5)]) view 0).kind = .drag ∧
      (interpret points (rested [(⟨1, 1⟩, 5)]) view 0).hits = .empty := by
  let _ := Coordinate.exact (fun a b : ℚ => |a| + |b|)
  intro points visits view
  have hlength (a b : ℚ) : 0 ≤ |a| + |b| := add_nonneg (abs_nonneg a) (abs_nonneg b)
  obtain ⟨hhits, hkind⟩ := interpret_rested _ hlength points visits view (1 / 20)
  have hone := (interpret_rested _ hlength points [(⟨1, 1⟩, 5)] view 0).1
  refine ⟨hlength, hhits.trans ?_, (hkind (by decide)).trans ?_, ?_, hone.trans ?_⟩
  all_goals decide +kernel

end Exact

end ScatterPick
