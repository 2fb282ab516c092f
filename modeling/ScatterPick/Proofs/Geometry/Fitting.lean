import Mathlib.Order.Bounds.Basic
import ScatterPick.Geometry.View
import ScatterPick.Proofs.Number.Order

/-!
# A fitted view is the smallest box around the points

The sides of a fitted view are running extrema. They start at the infinities, pass over undefined
coordinates one by one, and are finite in the end exactly if each axis has a coordinate that is a
number and none that is infinite. Then they are the least and the greatest of these numbers, and so
do not depend on the order of the points or on how often each of them occurs.
-/

namespace ScatterPick

open Coordinate

/-- The members of a list that are defined. -/
def numbers (xs : List Float) : List Float := xs.filter fun x => !x.isNaN

theorem mem_numbers {xs : List Float} {x : Float} :
    x ∈ numbers xs ↔ x ∈ xs ∧ x.isNaN = false := by
  rw [numbers, List.mem_filter, Bool.not_eq_true']

/-! ## Running extrema -/

/-- A choice between two values by some order. A defined first value is kept unless the second one
is better, so no undefined value is taken in its place. -/
structure Prefers (better : Float → Float → Prop) (pick : Float → Float → Float) : Prop where
  refl : ∀ {a}, a.isNaN = false → better a a
  trans : ∀ {a b c}, better a b → better b c → better a c
  defined : ∀ {a b}, better a b → a.isNaN = false
  chosen : ∀ {a b}, a.isNaN = false →
    pick a b = b ∧ better b a ∨ pick a b = a ∧ (b.isNaN = false → better a b)

theorem prefers_smaller : Prefers (· ≤ ·) smaller where
  refl := Number.double_le_refl
  trans := Number.double_le_trans
  defined h := (Number.double_le_iff.mp h).1.1
  chosen {a b} ha := by
    have hdefined : ¬isUndefined a = true := by simpa [isUndefined] using ha
    rw [smaller, if_neg hdefined]
    by_cases hlt : b < a
    · exact Or.inl ⟨if_pos (decide_eq_true hlt), Number.double_le_of_lt hlt⟩
    · refine Or.inr ⟨if_neg fun hless => hlt (of_decide_eq_true hless), fun hb => ?_⟩
      exact (Number.double_not_lt hb ha).mp hlt

theorem prefers_greater : Prefers (fun a b => b ≤ a) greater where
  refl := Number.double_le_refl
  trans hab hbc := Number.double_le_trans hbc hab
  defined h := (Number.double_le_iff.mp h).1.2
  chosen {a b} ha := by
    have hdefined : ¬isUndefined a = true := by simpa [isUndefined] using ha
    rw [greater, if_neg hdefined]
    by_cases hlt : a < b
    · exact Or.inl ⟨if_pos (decide_eq_true hlt), Number.double_le_of_lt hlt⟩
    · refine Or.inr ⟨if_neg fun hless => hlt (of_decide_eq_true hless), fun hb => ?_⟩
      exact (Number.double_not_lt ha hb).mp hlt

/-- A running choice ends at its start or at a number of the list, and none of them is better. -/
theorem Prefers.foldl {better : Float → Float → Prop} {pick : Float → Float → Float}
    (h : Prefers better pick) {start : Float} (hstart : start.isNaN = false) (xs : List Float) :
    (xs.foldl pick start = start ∨ xs.foldl pick start ∈ numbers xs) ∧
      better (xs.foldl pick start) start ∧ ∀ x ∈ numbers xs, better (xs.foldl pick start) x := by
  -- The choice between the start and the first member is the start for the rest of the list.
  induction xs generalizing start with
  | nil => exact ⟨.inl rfl, h.refl hstart, by simp [numbers]⟩
  | cons x xs ih =>
    have hmore {y : Float} (hy : y ∈ numbers xs) : y ∈ numbers (x :: xs) :=
      mem_numbers.mpr ⟨List.mem_cons_of_mem x (mem_numbers.mp hy).1, (mem_numbers.mp hy).2⟩
    rw [List.foldl_cons]
    rcases h.chosen (b := x) hstart with ⟨hpick, hbetter⟩ | ⟨hpick, hkept⟩
    · have hx := h.defined hbetter
      obtain ⟨hmem, hfirst, hall⟩ := ih hx
      rw [hpick]
      refine ⟨.inr ?_, h.trans hfirst hbetter, fun y hy => ?_⟩
      · rcases hmem with heq | hmem
        · rw [heq]
          exact mem_numbers.mpr ⟨List.mem_cons_self, hx⟩
        · exact hmore hmem
      · obtain ⟨hy, hnumber⟩ := mem_numbers.mp hy
        rcases List.mem_cons.mp hy with rfl | hy
        · exact hfirst
        · exact hall y (mem_numbers.mpr ⟨hy, hnumber⟩)
    · obtain ⟨hmem, hfirst, hall⟩ := ih hstart
      rw [hpick]
      refine ⟨hmem.imp_right hmore, hfirst, fun y hy => ?_⟩
      obtain ⟨hy, hnumber⟩ := mem_numbers.mp hy
      rcases List.mem_cons.mp hy with rfl | hy
      · exact h.trans hfirst (hkept hnumber)
      · exact hall y (mem_numbers.mpr ⟨hy, hnumber⟩)

/-! ## Tight ranges -/

/-- Some coordinate is a number, and no coordinate is infinite. -/
def Bounded (xs : List Float) : Prop := numbers xs ≠ [] ∧ ∀ x ∈ numbers xs, x.isFinite = true

/-- A range reaches from the least to the greatest number of a list. -/
structure Range.Spans (r : Range Float) (xs : List Float) : Prop where
  first : IsLeast {x | x ∈ numbers xs} r.first
  last : IsGreatest {x | x ∈ numbers xs} r.last

theorem isNaN_infinity : (1.0 / 0.0 : Float).isNaN = false ∧ (-1.0 / 0.0 : Float).isNaN = false := by
  decide +kernel

theorem isFinite_infinity :
    (1.0 / 0.0 : Float).isFinite = false ∧ (-1.0 / 0.0 : Float).isFinite = false := by
  decide +kernel

/-- A side with an ordinary end was set by a number of the list. -/
theorem spans_tightRange_of_isFinite {xs : List Float} (hfirst : (tightRange xs).first.isFinite = true)
    (hlast : (tightRange xs).last.isFinite = true) : (tightRange xs).Spans xs := by
  obtain ⟨hleast, -, hbelow⟩ := prefers_smaller.foldl isNaN_infinity.1 xs
  obtain ⟨hgreatest, -, habove⟩ := prefers_greater.foldl isNaN_infinity.2 xs
  refine ⟨⟨hleast.resolve_left fun heq => ?_, hbelow⟩, ⟨hgreatest.resolve_left fun heq => ?_, habove⟩⟩
  · have hinfinite : (tightRange xs).first = 1.0 / 0.0 := heq
    rw [hinfinite, isFinite_infinity.1] at hfirst
    cases hfirst
  · have hinfinite : (tightRange xs).last = -1.0 / 0.0 := heq
    rw [hinfinite, isFinite_infinity.2] at hlast
    cases hlast

/-- The numbers of a range with ordinary ends are ordinary. -/
theorem Range.Spans.bounded {r : Range Float} {xs : List Float} (h : r.Spans xs)
    (hfirst : r.first.isFinite = true) (hlast : r.last.isFinite = true) : Bounded xs :=
  ⟨List.ne_nil_of_mem h.first.1, fun _ hx =>
    Number.double_isFinite_of_le hfirst hlast (h.first.2 hx) (h.last.2 hx)⟩

/-- The tight range of coordinates without an infinite one has ordinary ends. -/
theorem isFinite_tightRange {xs : List Float} (h : Bounded xs) :
    (tightRange xs).first.isFinite = true ∧ (tightRange xs).last.isFinite = true := by
  obtain ⟨hne, hfinite⟩ := h
  obtain ⟨x, hx⟩ := List.exists_mem_of_ne_nil _ hne
  have hzero : (0.0 : Float).isFinite = true ∧ (0.0 : Float) ≤ 1.0 / 0.0 ∧
      (-1.0 / 0.0 : Float) ≤ 0.0 := by decide +kernel
  obtain ⟨hleast, -, hbelow⟩ := prefers_smaller.foldl isNaN_infinity.1 xs
  obtain ⟨hgreatest, -, habove⟩ := prefers_greater.foldl isNaN_infinity.2 xs
  refine ⟨hfinite _ (hleast.resolve_left fun heq => ?_),
    hfinite _ (hgreatest.resolve_left fun heq => ?_)⟩
  · have hle := hbelow x hx
    rw [heq] at hle
    have hinfinite := Number.double_isFinite_of_le hzero.1 (hfinite x hx) hzero.2.1 hle
    rw [isFinite_infinity.1] at hinfinite
    cases hinfinite
  · have hle := habove x hx
    rw [heq] at hle
    have hinfinite := Number.double_isFinite_of_le (hfinite x hx) hzero.1 hle hzero.2.2
    rw [isFinite_infinity.2] at hinfinite
    cases hinfinite

/-- The tight range of coordinates spans them if none is infinite. -/
theorem spans_tightRange {xs : List Float} (h : Bounded xs) : (tightRange xs).Spans xs :=
  spans_tightRange_of_isFinite (isFinite_tightRange h).1 (isFinite_tightRange h).2

/-- Lists with the same members have the same numbers. -/
theorem mem_numbers_congr {xs ys : List Float} (h : ∀ x, x ∈ ys ↔ x ∈ xs) (x : Float) :
    x ∈ numbers ys ↔ x ∈ numbers xs := by
  rw [mem_numbers, mem_numbers, h]

theorem Bounded.congr {xs ys : List Float} (h : Bounded xs) (hsame : ∀ x, x ∈ ys ↔ x ∈ xs) :
    Bounded ys := by
  obtain ⟨x, hx⟩ := List.exists_mem_of_ne_nil _ h.1
  exact ⟨List.ne_nil_of_mem ((mem_numbers_congr hsame x).mpr hx),
    fun y hy => h.2 y ((mem_numbers_congr hsame y).mp hy)⟩

/-- The ends of a range are known by the numbers that it spans, up to the sign of zero. -/
theorem Range.Spans.agrees {r s : Range Float} {xs ys : List Float} (hr : r.Spans xs)
    (hs : s.Spans ys) (hsame : ∀ x, x ∈ ys ↔ x ∈ xs) :
    (r.first == s.first) = true ∧ (r.last == s.last) = true := by
  have hnumbers := mem_numbers_congr hsame
  refine ⟨Number.double_beq_of_le ?_ ?_, Number.double_beq_of_le ?_ ?_⟩
  · exact hr.first.2 ((hnumbers _).mp hs.first.1)
  · exact hs.first.2 ((hnumbers _).mpr hr.first.1)
  · exact hs.last.2 ((hnumbers _).mpr hr.last.1)
  · exact hr.last.2 ((hnumbers _).mp hs.last.1)

/-- Both ends of a range are coordinates of points. -/
theorem Range.Spans.exists_points {r : Range Float} {points : List (Point Float)}
    {coordinate : Point Float → Float} (h : r.Spans (points.map coordinate)) :
    (∃ p ∈ points, coordinate p = r.first) ∧ ∃ p ∈ points, coordinate p = r.last :=
  ⟨List.mem_map.mp (mem_numbers.mp h.first.1).1, List.mem_map.mp (mem_numbers.mp h.last.1).1⟩

/-- A defined coordinate of a point lies between the ends of the range. -/
theorem Range.Spans.encloses {r : Range Float} {points : List (Point Float)}
    {coordinate : Point Float → Float} (h : r.Spans (points.map coordinate)) {p : Point Float}
    (hp : p ∈ points) (hdefined : (coordinate p).isNaN = false) :
    r.first ≤ coordinate p ∧ coordinate p ≤ r.last := by
  have hmem : coordinate p ∈ numbers (points.map coordinate) :=
    mem_numbers.mpr ⟨List.mem_map_of_mem hp, hdefined⟩
  exact ⟨h.first.2 hmem, h.last.2 hmem⟩

namespace View

/-- Points whose coordinates are bounded along both axes. -/
def Fittable (points : List (Point Float)) : Prop :=
  Bounded (points.map (·.x)) ∧ Bounded (points.map (·.y))

/-- A point lies in a view, sides included. -/
def Covers (v : View Float) (p : Point Float) : Prop :=
  v.x.first ≤ p.x ∧ p.x ≤ v.x.last ∧ v.y.first ≤ p.y ∧ p.y ≤ v.y.last

/-- Each side of a view goes through a point. -/
structure Touches (v : View Float) (points : List (Point Float)) : Prop where
  left : ∃ p ∈ points, p.x = v.x.first
  right : ∃ p ∈ points, p.x = v.x.last
  bottom : ∃ p ∈ points, p.y = v.y.first
  top : ∃ p ∈ points, p.y = v.y.last

theorem around_of_fittable {points : List (Point Float)} (h : Fittable points) :
    around points = ⟨tightRange (points.map (·.x)), tightRange (points.map (·.y))⟩ := by
  obtain ⟨hx, hx'⟩ := isFinite_tightRange h.1
  obtain ⟨hy, hy'⟩ := isFinite_tightRange h.2
  simp only [around, hx, hx', hy, hy', Bool.and_self, if_true]

theorem around_of_not_fittable {points : List (Point Float)} (h : ¬Fittable points) :
    around points = unit := by
  refine if_neg fun hfinite => h ?_
  simp only [Bool.and_eq_true] at hfinite
  obtain ⟨⟨⟨hx, hx'⟩, hy⟩, hy'⟩ := hfinite
  exact ⟨(spans_tightRange_of_isFinite hx hx').bounded hx hx',
    (spans_tightRange_of_isFinite hy hy').bounded hy hy'⟩

/-- Where the points can be fitted, the view spans their coordinates along both axes. -/
theorem spans_around {points : List (Point Float)} (h : Fittable points) :
    (around points).x.Spans (points.map (·.x)) ∧ (around points).y.Spans (points.map (·.y)) := by
  rw [around_of_fittable h]
  exact ⟨spans_tightRange h.1, spans_tightRange h.2⟩

/-- A view is known by the points that it is fitted to, whatever their order. -/
theorem around_agrees {points others : List (Point Float)} (h : Fittable points)
    (hsame : ∀ p, p ∈ others ↔ p ∈ points) : (around points).agrees (around others) = true := by
  have hmap (coordinate : Point Float → Float) (x : Float) :
      x ∈ others.map coordinate ↔ x ∈ points.map coordinate := by
    simp only [List.mem_map, hsame]
  have hothers : Fittable others := ⟨h.1.congr (hmap _), h.2.congr (hmap _)⟩
  obtain ⟨hx, hx'⟩ := (spans_around h).1.agrees (spans_around hothers).1 (hmap _)
  obtain ⟨hy, hy'⟩ := (spans_around h).2.agrees (spans_around hothers).2 (hmap _)
  rw [agrees, hx, hx', hy, hy']
  rfl

/-- The view around some points reaches from the least to the greatest defined coordinate along
each axis, if each axis has such coordinates and none of them is infinite. It is the unit square
otherwise. In the first case it covers every point with two defined coordinates, each of its sides
goes through a point, and it stays the same view of numbers if the points are reordered or
repeated. -/
theorem around_fits_points (points : List (Point Float)) :
    (Fittable points →
      (around points).x.Spans (points.map (·.x)) ∧ (around points).y.Spans (points.map (·.y)) ∧
      (∀ p ∈ points, p.x.isNaN = false → p.y.isNaN = false → (around points).Covers p) ∧
      (around points).Touches points ∧
      ∀ others : List (Point Float), (∀ p, p ∈ others ↔ p ∈ points) →
        (around points).agrees (around others) = true) ∧
    (¬Fittable points → around points = unit) := by
  refine ⟨fun h => ?_, around_of_not_fittable⟩
  obtain ⟨hx, hy⟩ := spans_around h
  refine ⟨hx, hy, fun p hp hpx hpy => ?_, ?_, fun others hsame => around_agrees h hsame⟩
  · obtain ⟨hleft, hright⟩ := hx.encloses hp hpx
    obtain ⟨hbottom, htop⟩ := hy.encloses hp hpy
    exact ⟨hleft, hright, hbottom, htop⟩
  · obtain ⟨hleft, hright⟩ := hx.exists_points
    obtain ⟨hbottom, htop⟩ := hy.exists_points
    exact ⟨hleft, hright, hbottom, htop⟩

/-- Points of which one is undefined along one axis, and the same points in another order with one
of them twice. An infinite coordinate beside them leaves the unit square. -/
theorem around_of_scattered :
    let a : Point Float := ⟨2.0, 0.0 / 0.0⟩
    let b : Point Float := ⟨-1.0, 4.0⟩
    let c : Point Float := ⟨0.5, -3.0⟩
    let far : Point Float := ⟨1.0 / 0.0, 0.0⟩
    Fittable [a, b, c] ∧ (around [a, b, c]).x.Spans [2.0, -1.0, 0.5] ∧
      (around [a, b, c]).Covers b ∧ (around [a, b, c]).agrees (around [c, a, c, b]) = true ∧
      ¬Fittable [far, a, b, c] ∧ around [far, a, b, c] = unit := by
  have hreordered (a b c p : Point Float) : p ∈ [c, a, c, b] ↔ p ∈ [a, b, c] := by
    simp only [List.mem_cons, List.not_mem_nil, or_false]
    tauto
  intro a b c far
  have hfit : Fittable [a, b, c] :=
    ⟨⟨by decide +kernel, by decide +kernel⟩, by decide +kernel, by decide +kernel⟩
  have hfar : ¬Fittable [far, a, b, c] := fun h => by
    have hmem : far.x ∈ numbers ([far, a, b, c].map (·.x)) :=
      mem_numbers.mpr ⟨List.mem_cons_self, isNaN_infinity.1⟩
    exact Bool.false_ne_true (isFinite_infinity.1.symm.trans (h.1.2 _ hmem))
  have hmem : b ∈ [a, b, c] := List.mem_cons_of_mem a List.mem_cons_self
  obtain ⟨hx, -, hcovers, -, hagrees⟩ := (around_fits_points [a, b, c]).1 hfit
  exact ⟨hfit, hx, hcovers b hmem (by decide +kernel) (by decide +kernel),
    hagrees [c, a, c, b] (hreordered a b c), hfar, (around_fits_points [far, a, b, c]).2 hfar⟩

end View

end ScatterPick
