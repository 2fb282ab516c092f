import Mathlib.Data.List.Rotate
import ScatterPick.Geometry.Gesture
import ScatterPick.Proofs.Geometry.Chord

/-!
# Lassos as closed curves

In exact arithmetic a lasso is the closed curve through its vertices: it makes no difference where
the drawing began, in which direction it went and whether it came back to its first vertex.
-/

namespace ScatterPick

/-- Polygons that contain the same points enclose the same indices. -/
theorem lassoed_congr {α : Type} [Coordinate α] {vertices others : List (Point α)}
    (h : ∀ p, Polygon.contains vertices p = Polygon.contains others p) (points : List (Point α)) :
    lassoed points vertices = lassoed points others := by
  simp only [lassoed, h]

namespace Polygon

section Exact

variable {α : Type} [Field α] [LinearOrder α] (length : α → α → α)

/-- The crossings of a polygon are those of the path from its first vertex around to it. -/
theorem contains_eq_around (a : Point α) (path : List (Point α)) (p : Point α) :
    letI := Coordinate.exact length
    contains (a :: path) p = oddCrossings p a (path ++ [a]) := by
  let _ := Coordinate.exact length
  rw [contains_eq_oddCrossings, oddCrossings_concat, Bool.xor_comm]

/-- A path is crossed as often on the way back. -/
theorem oddCrossings_back (p a b : Point α) (path : List (Point α)) :
    letI := Coordinate.exact length
    oddCrossings p a (path ++ [b]) = oddCrossings p b (path.reverse ++ [a]) := by
  let _ := Coordinate.exact length
  induction path generalizing a with
  | nil => simp only [List.reverse_nil, List.nil_append, oddCrossings, crosses_comm length p b a]
  | cons c rest ih =>
    rw [List.cons_append, oddCrossings, ih, List.reverse_cons,
      oddCrossings_concat p b (rest.reverse ++ [c]) a, List.getLastD_concat,
      crosses_comm length p a c, Bool.xor_comm]

/-- The two stretches of a polygon may be read in either order. -/
theorem contains_append_comm (front back : List (Point α)) (p : Point α) :
    letI := Coordinate.exact length
    contains (back ++ front) p = contains (front ++ back) p := by
  let _ := Coordinate.exact length
  match front, back with
  | [], back => rw [List.append_nil, List.nil_append]
  | a :: front, [] => rw [List.append_nil, List.nil_append]
  | a :: front, b :: back =>
    -- Both ways around consist of the stretch from `a` to `b` and the one from `b` to `a`.
    have hstretches (c d : Point α) (path more : List (Point α)) :
        contains (c :: path ++ d :: more) p =
          (oddCrossings p c (path ++ [d]) ^^ oddCrossings p d (more ++ [c])) := by
      rw [List.cons_append, contains_eq_around, List.append_cons path d more, List.append_assoc,
        oddCrossings_append, List.getLastD_concat]
    rw [hstretches, hstretches, Bool.xor_comm]

/-- Where the drawing of a lasso began makes no difference. -/
theorem contains_rotate (vertices : List (Point α)) (start : Nat) (p : Point α) :
    letI := Coordinate.exact length
    contains (vertices.rotate start) p = contains vertices p := by
  rw [List.rotate_eq_drop_append_take_mod, contains_append_comm, List.take_append_drop]

/-- A polygon may be read from any of its vertices on. -/
theorem contains_of_isRotated {vertices others : List (Point α)} (h : vertices ~r others)
    (p : Point α) :
    letI := Coordinate.exact length
    contains vertices p = contains others p := by
  obtain ⟨start, rfl⟩ := h
  exact (contains_rotate length vertices start p).symm

/-- In which direction a lasso was drawn makes no difference. -/
theorem contains_reverse (vertices : List (Point α)) (p : Point α) :
    letI := Coordinate.exact length
    contains vertices.reverse p = contains vertices p := by
  cases vertices with
  | nil => rfl
  | cons a path =>
    rw [List.reverse_cons, contains_append_comm, List.singleton_append, contains_eq_around,
      ← oddCrossings_back, ← contains_eq_around]

/-- Coming back to the first vertex of a lasso makes no difference. -/
theorem contains_closed (vertices : List (Point α)) (p : Point α) :
    letI := Coordinate.exact length
    contains (vertices ++ vertices.take 1) p = contains vertices p := by
  let _ := Coordinate.exact length
  cases vertices with
  | nil => rfl
  | cons a path =>
    change contains (a :: (path ++ [a])) p = _
    rw [contains_eq_around, oddCrossings_concat, List.getLastD_concat, crosses_self,
      Bool.xor_false, contains_eq_around]

/-- What a lasso contains, and so what it selects, depends on the closed curve alone: it is the
same for the list of vertices from any of them on, for the list in reverse and for the list that
ends with its first vertex again. -/
theorem contains_same_curve (vertices : List (Point α)) (start : Nat) :
    letI := Coordinate.exact length
    (∀ p, contains (vertices.rotate start) p = contains vertices p ∧
      contains vertices.reverse p = contains vertices p ∧
      contains (vertices ++ vertices.take 1) p = contains vertices p) ∧
    ∀ points, lassoed points (vertices.rotate start) = lassoed points vertices ∧
      lassoed points vertices.reverse = lassoed points vertices ∧
      lassoed points (vertices ++ vertices.take 1) = lassoed points vertices := by
  let _ := Coordinate.exact length
  refine ⟨fun p => ⟨?_, ?_, ?_⟩, fun points => ⟨?_, ?_, ?_⟩⟩
  · exact contains_rotate length vertices start p
  · exact contains_reverse length vertices p
  · exact contains_closed length vertices p
  · exact lassoed_congr (contains_rotate length vertices start) points
  · exact lassoed_congr (contains_reverse length vertices) points
  · exact lassoed_congr (contains_closed length vertices) points

end Exact

end Polygon

end ScatterPick
