import Mathlib.Tactic.FieldSimp
import Mathlib.Algebra.Order.Ring.Rat
import Mathlib.Tactic.Ring
import ScatterPick.Geometry.Exact
import ScatterPick.Geometry.Polygon

/-!
# Cutting a lasso along a chord

In exact arithmetic a chord between two vertices cuts a polygon into two, and a point lies in the
whole polygon exactly if it lies in one of the two but not in the other. The chord is an edge of
both parts, in opposite directions, and counts the same in both.
-/

namespace ScatterPick.Polygon

/-! ## Crossings along a path -/

section Path

variable {α : Type} [Coordinate α]

/-- The crossings along a path in two stretches. -/
theorem oddCrossings_append (p previous : Point α) (path more : List (Point α)) :
    oddCrossings p previous (path ++ more) =
      (oddCrossings p previous path ^^ oddCrossings p (path.getLastD previous) more) := by
  induction path generalizing previous with
  | nil => simp [oddCrossings]
  | cons a rest ih =>
    rw [List.cons_append, oddCrossings, oddCrossings, ih, Bool.xor_assoc, List.getLastD_cons]

/-- The crossings along a path through one more vertex. -/
theorem oddCrossings_concat (p previous : Point α) (path : List (Point α)) (a : Point α) :
    oddCrossings p previous (path ++ [a]) =
      (oddCrossings p previous path ^^ crosses p a (path.getLastD previous)) := by
  rw [oddCrossings_append, oddCrossings, oddCrossings, Bool.xor_false]

/-- An edge from a vertex to itself is not crossed. -/
theorem crosses_self (p a : Point α) : crosses p a a = false := by
  simp [crosses]

/-- A polygon in terms of its first vertex: the closing edge, then the path through the others. -/
theorem contains_cons (a : Point α) (path : List (Point α)) (p : Point α) :
    contains (a :: path) p =
      (decide (2 ≤ path.length) && (crosses p a (path.getLastD a) ^^ oddCrossings p a path)) := by
  have hsize : decide (3 ≤ (a :: path).length) = decide (2 ≤ path.length) := by
    simp
  simp only [contains, List.getLast?_cons, hsize, oddCrossings, List.getLastD_eq_getLast?]

end Path

/-! ## Exact arithmetic -/

section Exact

variable {α : Type} [Field α] [LinearOrder α] (length : α → α → α)

/-- Both directions of an edge meet a height at the same place. -/
theorem crossing_comm {p a b : Point α} (h : a.y ≠ b.y) :
    letI := Coordinate.exact length
    crossing p a b = crossing p b a := by
  change a.x + (p.y - a.y) * (b.x - a.x) / (b.y - a.y) =
    b.x + (p.y - b.y) * (a.x - b.x) / (a.y - b.y)
  have hab : b.y - a.y ≠ 0 := sub_ne_zero.mpr h.symm
  have hba : a.y - b.y ≠ 0 := sub_ne_zero.mpr h
  field_simp
  ring

/-- Both directions of an edge are crossed by the same rays. -/
theorem crosses_comm (p a b : Point α) :
    letI := Coordinate.exact length
    crosses p a b = crosses p b a := by
  by_cases h : a.y = b.y
  · simp [crosses, h]
  · let _ := Coordinate.exact length
    rw [crosses, crosses, crossing_comm length h, bne_comm]

/-- A closed path with less than three vertices is crossed an even number of times, so the closing
edge and the path through the other vertices tell about every polygon. -/
theorem contains_eq_oddCrossings (a : Point α) (path : List (Point α)) (p : Point α) :
    letI := Coordinate.exact length
    contains (a :: path) p = (crosses p a (path.getLastD a) ^^ oddCrossings p a path) := by
  let _ := Coordinate.exact length
  rw [contains_cons]
  match path with
  | [] => simp [oddCrossings, crosses_self]
  | [b] => simp [oddCrossings, crosses_comm length p a b]
  | b :: c :: rest => simp

/-- A chord between the vertices `a` and `b` cuts a polygon into two. -/
theorem contains_cut (a b : Point α) (before after : List (Point α)) (p : Point α) :
    letI := Coordinate.exact length
    contains (a :: (before ++ b :: after)) p =
      (contains (a :: (before ++ [b])) p ^^ contains (b :: (after ++ [a])) p) := by
  let _ := Coordinate.exact length
  have hsplit : before ++ b :: after = (before ++ [b]) ++ after := List.append_cons ..
  have hlast : (before ++ b :: after).getLastD a = after.getLastD b := by
    simp [List.getLastD_eq_getLast?, List.getLast?_cons]
  have hwhole := contains_eq_oddCrossings length a (before ++ b :: after) p
  rw [hlast, hsplit, oddCrossings_append, List.getLastD_concat, ← hsplit] at hwhole
  have hbefore := contains_eq_oddCrossings length a (before ++ [b]) p
  rw [List.getLastD_concat] at hbefore
  have hafter := contains_eq_oddCrossings length b (after ++ [a]) p
  rw [List.getLastD_concat, oddCrossings_concat, crosses_comm length p b a] at hafter
  -- The chord counts in both parts and drops out; what is left are the edges of the whole polygon.
  rw [hwhole, hbefore, hafter]
  generalize crosses p a b = chord
  cases chord with
  | false => simp [Bool.xor_comm, Bool.xor_left_comm]
  | true => simp [Bool.xor_comm, Bool.xor_left_comm]

/-- The chord from the first vertex to vertex `k` cuts a polygon into two. A point lies in the
polygon if it lies in exactly one of the two parts, wherever the vertices are and also if the point
lies on the chord. -/
theorem contains_along_chord (polygon : List (Point α)) {k : Nat} (hk : 1 ≤ k)
    (hlast : k < polygon.length) (p : Point α) :
    letI := Coordinate.exact length
    let near := polygon.take (k + 1)
    let far := polygon.drop k ++ polygon.take 1
    contains polygon p = (contains near p ^^ contains far p) ∧
      (contains polygon p = true → (contains near p = true ↔ contains far p = false)) := by
  let _ := Coordinate.exact length
  intro near far
  have hparts : contains polygon p = (contains near p ^^ contains far p) := by
    obtain ⟨j, rfl⟩ := Nat.exists_eq_add_of_le' hk
    obtain ⟨a, path, rfl⟩ := List.exists_cons_of_length_pos (Nat.zero_lt_of_lt hlast)
    have hj : j < path.length := Nat.lt_of_succ_lt_succ hlast
    have hpath : path = path.take j ++ path[j] :: path.drop (j + 1) := by simp
    have hnear : near = a :: (path.take j ++ [path[j]]) := by
      simp [near]
    have hfar : far = path[j] :: (path.drop (j + 1) ++ [a]) := by
      change path.drop j ++ [a] = _
      rw [List.drop_eq_getElem_cons hj, List.cons_append]
    rw [hnear, hfar, ← contains_cut, ← hpath]
  refine ⟨hparts, fun hwhole => ?_⟩
  have hone : (contains near p ^^ contains far p) = true := hparts.symm.trans hwhole
  rwa [bne_iff_ne, ← Bool.eq_not_iff, Bool.eq_iff_iff, Bool.not_eq_true'] at hone

/-- In the square from zero to two the point in the middle lies on the chord between two opposite
corners; it belongs to the part to its right alone. -/
theorem contains_on_chord :
    letI := Coordinate.exact (fun a b : ℚ => |a| + |b|)
    let square : List (Point ℚ) := [⟨0, 0⟩, ⟨2, 0⟩, ⟨2, 2⟩, ⟨0, 2⟩]
    1 ≤ 2 ∧ 2 < square.length ∧ contains square ⟨1, 1⟩ = true ∧
      (contains [⟨0, 0⟩, ⟨2, 0⟩, ⟨2, 2⟩] (⟨1, 1⟩ : Point ℚ) = true ↔
        contains [⟨2, 2⟩, ⟨0, 2⟩, ⟨0, 0⟩] (⟨1, 1⟩ : Point ℚ) = false) := by
  let _ := Coordinate.exact (fun a b : ℚ => |a| + |b|)
  intro square
  have hwhole : contains square ⟨1, 1⟩ = true := by decide +kernel
  have h := contains_along_chord (fun a b : ℚ => |a| + |b|) square (k := 2) (by decide) (by decide)
    ⟨1, 1⟩
  exact ⟨by decide, by decide, hwhole, h.2 hwhole⟩

end Exact

end ScatterPick.Polygon
