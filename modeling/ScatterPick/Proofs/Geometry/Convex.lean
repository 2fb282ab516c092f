import Mathlib.Data.Finset.Max
import ScatterPick.Proofs.Geometry.Turn

/-!
# Convex lassos

In exact arithmetic a strictly convex lasso contains what lies strictly to the left of all its
edges, when its vertices are read counter-clockwise, and nothing strictly to the right of one. Of
its boundary it contains the left and the bottom edges. At a given height one edge runs downwards
and all others that reach that height run upwards, and a point inside has them to its right.
-/

namespace ScatterPick.Polygon

section Edge

variable {α : Type}

/-- A polygon has an edge from `a` to `b`: from `a` on, its vertices go on with `b`. -/
def HasEdge (polygon : List (Point α)) (a b : Point α) : Prop :=
  ∃ others, polygon ~r a :: b :: others

/-- A path through all vertices of a polygon has edges of the polygon only. -/
theorem hasEdge_of_mem_edges {polygon path : List (Point α)} {first : Point α}
    {e : Point α × Point α} (hpath : polygon ~r first :: path) (he : e ∈ edges first path) :
    HasEdge polygon e.1 e.2 := by
  obtain ⟨before, after, hsplit⟩ := exists_append_of_mem_edges he
  rw [hsplit] at hpath
  exact ⟨after ++ before, hpath.trans List.isRotated_append⟩

/-- A polygon can be read from any vertex on. -/
theorem exists_isRotated_cons {polygon : List (Point α)} {v : Point α} (hv : v ∈ polygon) :
    ∃ others, polygon ~r v :: others := by
  obtain ⟨before, after, rfl⟩ := List.append_of_mem hv
  exact ⟨after ++ before, List.isRotated_append⟩

/-- Where a polygon has a second vertex, others follow each of its vertices. -/
theorem ne_nil_of_isRotated {polygon others : List (Point α)} {v : Point α}
    (hsize : 2 ≤ polygon.length) (hrotated : polygon ~r v :: others) : others ≠ [] := by
  rintro rfl
  rw [hrotated.perm.length_eq] at hsize
  exact absurd hsize (by simp)

/-- An edge leaves every vertex. -/
theorem exists_edge_from {polygon : List (Point α)} (hsize : 2 ≤ polygon.length) {v : Point α}
    (hv : v ∈ polygon) : ∃ w ∈ polygon, HasEdge polygon v w := by
  obtain ⟨others, hrotated⟩ := exists_isRotated_cons hv
  obtain ⟨w, rest, rfl⟩ := List.exists_cons_of_ne_nil (ne_nil_of_isRotated hsize hrotated)
  exact ⟨w, hrotated.mem_iff.mpr (by simp), rest, hrotated⟩

/-- An edge arrives at every vertex. -/
theorem exists_edge_to {polygon : List (Point α)} (hsize : 2 ≤ polygon.length) {v : Point α}
    (hv : v ∈ polygon) : ∃ u ∈ polygon, HasEdge polygon u v := by
  obtain ⟨others, hrotated⟩ := exists_isRotated_cons hv
  obtain ⟨front, u, rfl⟩ :=
    others.eq_nil_or_concat'.resolve_left (ne_nil_of_isRotated hsize hrotated)
  exact ⟨u, hrotated.mem_iff.mpr (by simp), front,
    hrotated.trans (List.isRotated_concat u (v :: front))⟩

/-- What every edge of a path hands on from its start to its end holds along the whole path. -/
theorem forall_mem_of_edges {P : Point α → Prop} {first : Point α} {path : List (Point α)}
    (hstep : ∀ e ∈ edges first path, P e.1 → P e.2) (hfirst : P first) : ∀ v ∈ path, P v := by
  induction path generalizing first with
  | nil => simp
  | cons a rest ih =>
    rw [edges_cons, List.forall_mem_cons] at hstep
    have ha : P a := hstep.1 hfirst
    exact List.forall_mem_cons.mpr ⟨ha, ih hstep.2 ha⟩

/-- A polygon with vertices above a height and others not above it has an edge that runs
downwards past the height. -/
theorem exists_falling_edge [LinearOrder α] {polygon : List (Point α)} {height : α}
    (hhigh : ∃ v ∈ polygon, height < v.y) (hlow : ∃ w ∈ polygon, w.y ≤ height) :
    ∃ a b, HasEdge polygon a b ∧ height < a.y ∧ b.y ≤ height := by
  obtain ⟨v, hv, hvy⟩ := hhigh
  obtain ⟨w, hw, hwy⟩ := hlow
  obtain ⟨others, hrotated⟩ := exists_isRotated_cons hv
  have hne : w ≠ v := by
    rintro rfl
    exact hwy.not_gt hvy
  have hw' : w ∈ others := (List.mem_cons.mp (hrotated.mem_iff.mp hw)).resolve_left hne
  by_contra hnone
  have hstep : ∀ e ∈ edges v others, height < e.1.y → height < e.2.y := by
    intro e he habove
    by_contra hbelow
    exact hnone ⟨e.1, e.2, hasEdge_of_mem_edges hrotated he, habove, not_lt.mp hbelow⟩
  exact hwy.not_gt (forall_mem_of_edges (P := fun v => height < v.y) hstep hvy w hw')

end Edge

section Inside

variable {α : Type} [Field α] [LinearOrder α] [IsStrictOrderedRing α] {polygon : List (Point α)}
  {p : Point α}

/-- Around a point to the left of all edges the vertices are not all on one side of its height.
Seen from the point, each edge goes on to a vertex with a lesser bearing on such a side, and the
least one would have none to go on to. -/
theorem not_all_on_one_side (hsize : 2 ≤ polygon.length)
    (hleft : ∀ a b, HasEdge polygon a b → 0 < turn a b p) :
    ¬∀ v ∈ polygon, ∀ w ∈ polygon, 0 < (v.y - p.y) * (w.y - p.y) := by
  classical
  intro hside
  have hnonempty : polygon.toFinset.Nonempty := by
    rw [List.toFinset_nonempty_iff]
    rintro rfl
    simp at hsize
  obtain ⟨v, hv, hleast⟩ :=
    polygon.toFinset.exists_min_image (fun v => (v.x - p.x) / (v.y - p.y)) hnonempty
  rw [List.mem_toFinset] at hv
  obtain ⟨w, hw, hedge⟩ := exists_edge_from hsize hv
  have hpos := hside v hv w hw
  have hv0 : v.y - p.y ≠ 0 := left_ne_zero_of_mul hpos.ne'
  have hw0 : w.y - p.y ≠ 0 := right_ne_zero_of_mul hpos.ne'
  have hle := mul_le_mul_of_nonneg_right (hleast w (List.mem_toFinset.mpr hw)) hpos.le
  have hv' : (v.x - p.x) / (v.y - p.y) * ((v.y - p.y) * (w.y - p.y)) =
      (v.x - p.x) * (w.y - p.y) := by
    rw [← mul_assoc, div_mul_cancel₀ _ hv0]
  have hw' : (w.x - p.x) / (w.y - p.y) * ((v.y - p.y) * (w.y - p.y)) =
      (w.x - p.x) * (v.y - p.y) := by
    rw [mul_comm (v.y - p.y), ← mul_assoc, div_mul_cancel₀ _ hw0]
  rw [hv', hw'] at hle
  have hturn := hleft v w hedge
  rw [turn_eq_sub] at hturn
  exact hle.not_gt (sub_pos.mp hturn)

/-- Some vertex is above a point to the left of all edges. -/
theorem exists_above (hsize : 2 ≤ polygon.length)
    (hleft : ∀ a b, HasEdge polygon a b → 0 < turn a b p) : ∃ v ∈ polygon, p.y < v.y := by
  by_contra hnone
  have hbelow : ∀ v ∈ polygon, v.y - p.y ≤ 0 := by
    intro v hv
    by_contra hv'
    exact hnone ⟨v, hv, sub_pos.mp (not_le.mp hv')⟩
  -- A vertex on the height would lie right of the point by the edge that arrives there, and left
  -- of it by the edge that leaves.
  have hstrict : ∀ v ∈ polygon, v.y - p.y < 0 := by
    intro v hv
    refine lt_of_le_of_ne (hbelow v hv) fun hlevel => ?_
    obtain ⟨u, hu, harrive⟩ := exists_edge_to hsize hv
    obtain ⟨w, hw, hleave⟩ := exists_edge_from hsize hv
    have hright := hleft u v harrive
    have hback := hleft v w hleave
    rw [turn_eq_sub, hlevel, mul_zero, zero_sub, ← mul_neg] at hright
    rw [turn_eq_sub, hlevel, mul_zero, sub_zero] at hback
    have hx := pos_of_mul_pos_left hright (neg_nonneg.mpr (hbelow u hu))
    exact hback.not_ge (mul_nonpos_of_nonneg_of_nonpos hx.le (hbelow w hw))
  exact not_all_on_one_side hsize hleft fun v hv w hw =>
    mul_pos_of_neg_of_neg (hstrict v hv) (hstrict w hw)

/-- Some vertex is not above a point to the left of all edges. -/
theorem exists_not_above (hsize : 2 ≤ polygon.length)
    (hleft : ∀ a b, HasEdge polygon a b → 0 < turn a b p) : ∃ v ∈ polygon, v.y ≤ p.y := by
  by_contra hnone
  have habove : ∀ v ∈ polygon, 0 < v.y - p.y := by
    intro v hv
    by_contra hv'
    exact hnone ⟨v, hv, sub_nonpos.mp (not_lt.mp hv')⟩
  exact not_all_on_one_side hsize hleft fun v hv w hw => mul_pos (habove v hv) (habove w hw)

end Inside

/-- A point strictly between two others. -/
def StrictlyBetween {α : Type} [Field α] [LinearOrder α] (p a b : Point α) : Prop :=
  ∃ t : α, 0 < t ∧ t < 1 ∧ p = a.along b t

/-- The vertices of a polygon in counter-clockwise order around a strictly convex region: to the
left of each edge lie all vertices but its ends. -/
structure StrictlyConvex {α : Type} [Field α] [LinearOrder α] (polygon : List (Point α)) :
    Prop where
  three : 3 ≤ polygon.length
  left : ∀ a b others, polygon ~r a :: b :: others → ∀ v ∈ others, 0 < turn a b v

/-- The ways to read a polygon from an edge on are its rotations. -/
theorem forall_reading_iff {α : Type} {polygon : List (Point α)}
    {P : Point α → Point α → List (Point α) → Prop} :
    (∀ a b others, polygon ~r a :: b :: others → P a b others) ↔
      ∀ reading ∈ polygon.cyclicPermutations,
        ∀ a ∈ reading[0]?, ∀ b ∈ reading[1]?, P a b (reading.drop 2) := by
  simp only [List.mem_cyclicPermutations_iff]
  constructor
  · intro h reading hrotated a ha b hb
    match reading, ha, hb with
    | a :: b :: others, rfl, rfl => exact h a b others hrotated.symm
  · intro h a b others hrotated
    exact h (a :: b :: others) hrotated.symm a rfl b rfl

instance StrictlyConvex.decidable {α : Type} [Field α] [LinearOrder α] (polygon : List (Point α)) :
    Decidable (StrictlyConvex polygon) :=
  decidable_of_iff (3 ≤ polygon.length ∧ ∀ reading ∈ polygon.cyclicPermutations,
      ∀ a ∈ reading[0]?, ∀ b ∈ reading[1]?, ∀ v ∈ reading.drop 2, 0 < turn a b v)
    ⟨fun h => ⟨h.1, forall_reading_iff.mpr h.2⟩, fun h => ⟨h.three, forall_reading_iff.mp h.left⟩⟩

section Convex

variable {α : Type} [Field α] [LinearOrder α] [IsStrictOrderedRing α] (length : α → α → α)
  {polygon rest : List (Point α)} {a b c d p : Point α}

omit [IsStrictOrderedRing α] in
/-- No vertex of a convex polygon is to the right of an edge. -/
theorem StrictlyConvex.turn_nonneg (hconvex : StrictlyConvex polygon)
    (hedge : HasEdge polygon a b) : ∀ v ∈ polygon, 0 ≤ turn a b v := by
  obtain ⟨others, hrotated⟩ := hedge
  intro v hv
  rcases List.mem_cons.mp (hrotated.mem_iff.mp hv) with rfl | hv
  · rw [turn_start]
  · rcases List.mem_cons.mp hv with rfl | hv
    · rw [turn_stop]
    · exact (hconvex.left a b others hrotated v hv).le

omit [IsStrictOrderedRing α] in
/-- A convex polygon has a vertex off each of its edges. -/
theorem StrictlyConvex.rest_ne_nil (hconvex : StrictlyConvex polygon)
    (hrotated : polygon ~r a :: b :: rest) : rest ≠ [] := by
  rintro rfl
  have hthree := hconvex.three
  rw [hrotated.perm.length_eq] at hthree
  simp at hthree

omit [Field α] [LinearOrder α] [IsStrictOrderedRing α] in
/-- The way from the end of an edge back to its start has a vertex off the edge in each step. -/
theorem mem_edges_back (hrest : rest ≠ []) (he : (c, d) ∈ edges b (rest ++ [a])) :
    c = b ∧ d ∈ rest ∨ c ∈ rest ∧ d ∈ rest ++ [a] := by
  obtain ⟨r, others, rfl⟩ := List.exists_cons_of_ne_nil hrest
  rw [List.cons_append, edges_cons, List.mem_cons, Prod.mk.injEq] at he
  rcases he with ⟨rfl, rfl⟩ | he
  · exact .inl ⟨rfl, List.mem_cons_self⟩
  · obtain ⟨hstart, hstop⟩ := mem_of_mem_edges_concat he
    exact .inr ⟨hstart, List.mem_cons_of_mem r hstop⟩

/-- A polygon with an edge that runs downwards past a point and not right of it, while all other
edges at its height are to the right of the point. -/
theorem contains_of_one_falling (ha : p.y < a.y) (hb : b.y ≤ p.y) (hon : 0 ≤ turn a b p)
    (hothers : letI := Coordinate.exact length
      ∀ e ∈ edges b (rest ++ [a]), straddles p e.2 e.1 = true → crosses p e.2 e.1 = true) :
    letI := Coordinate.exact length
    contains (a :: b :: rest) p = true := by
  let _ := Coordinate.exact length
  have hstart : above p b = false := decide_eq_false hb.not_gt
  have hstop : above p a = true := decide_eq_true ha
  rw [contains_eq_around, List.cons_append, oddCrossings, crosses_of_falling length ha hb,
    decide_eq_false hon.not_gt, Bool.false_xor, oddCrossings_of_all hothers, List.getLastD_concat,
    hstart, hstop]
  rfl

/-- The way back from the end of an edge to its start is to the left of the edge wherever it meets
a height strictly between: it could touch the edge at its ends only. -/
theorem StrictlyConvex.turn_back_pos (hconvex : StrictlyConvex polygon)
    (hrotated : polygon ~r a :: b :: rest) (he : (c, d) ∈ edges b (rest ++ [a])) {t : α}
    (h0 : 0 ≤ t) (h1 : t ≤ 1) (hstart : c = b → t ≠ 1) (hstop : d = a → t ≠ 0) :
    0 < turn a b (d.along c t) := by
  have hleft := hconvex.left a b rest hrotated
  rcases mem_edges_back (hconvex.rest_ne_nil hrotated) he with ⟨rfl, hd⟩ | ⟨hc, hd⟩
  · have ht : t < 1 := lt_of_le_of_ne h1 (hstart rfl)
    exact turn_along_pos h0 h1 (hleft d hd).le (turn_stop a c).ge (.inl ⟨ht, hleft d hd⟩)
  · rcases List.mem_append.mp hd with hd | hd
    · rcases h0.eq_or_lt with rfl | ht
      · exact turn_along_pos h0 h1 (hleft d hd).le (hleft c hc).le (.inl ⟨one_pos, hleft d hd⟩)
      · exact turn_along_pos h0 h1 (hleft d hd).le (hleft c hc).le (.inr ⟨ht, hleft c hc⟩)
    · obtain rfl := List.mem_singleton.mp hd
      have ht : 0 < t := lt_of_le_of_ne h0 (hstop rfl).symm
      exact turn_along_pos h0 h1 (turn_start d b).ge (hleft c hc).le (.inr ⟨ht, hleft c hc⟩)

/-- From a point on an edge that runs downwards, all other edges at its height are to the right. -/
theorem StrictlyConvex.crosses_back (hconvex : StrictlyConvex polygon)
    (hrotated : polygon ~r a :: b :: rest) (ha : p.y < a.y) (hb : b.y ≤ p.y)
    (hon : turn a b p = 0) (he : (c, d) ∈ edges b (rest ++ [a])) (hstart : c = b → b.y < p.y)
    (hstraddles : letI := Coordinate.exact length; straddles p d c = true) :
    letI := Coordinate.exact length
    crosses p d c = true := by
  let _ := Coordinate.exact length
  obtain ⟨t, h0, h1, hpoint⟩ := exists_along_of_straddles length hstraddles
  have hheight : d.y + t * (c.y - d.y) = p.y := congrArg Point.y hpoint
  have hpos : 0 < turn a b (d.along c t) := by
    refine hconvex.turn_back_pos hrotated he h0 h1 ?_ ?_
    · rintro rfl rfl
      rw [one_mul, add_sub_cancel] at hheight
      exact (hstart rfl).ne hheight
    · rintro rfl rfl
      rw [zero_mul, add_zero] at hheight
      exact ha.ne' hheight
  rw [hpoint, turn_level, hon, zero_add] at hpos
  have hfall : 0 < a.y - b.y := sub_pos.mpr (hb.trans_lt ha)
  rw [crosses_of_straddles hstraddles]
  exact decide_eq_true (sub_pos.mp (pos_of_mul_pos_right hpos hfall.le))

/-- At the height of an edge that runs downwards no other edge does. -/
theorem StrictlyConvex.rising_back (hconvex : StrictlyConvex polygon)
    (hrotated : polygon ~r a :: b :: rest) (ha : p.y < a.y) (hb : b.y ≤ p.y)
    (he : (c, d) ∈ edges b (rest ++ [a]))
    (hstraddles : letI := Coordinate.exact length; straddles p d c = true) :
    c.y ≤ p.y ∧ p.y < d.y := by
  let _ := Coordinate.exact length
  rcases (straddles_iff length).mp hstraddles with ⟨hd, hc⟩ | ⟨hd, hc⟩
  · exact ⟨hc, hd⟩
  · exfalso
    -- Seen from where the first edge meets the height, a second one would have to be on both sides.
    have hfirst : straddles p b a = true := (straddles_iff length).mpr (.inr ⟨hb, ha⟩)
    obtain ⟨t, h0, h1, hpoint⟩ := exists_along_of_straddles length hfirst
    obtain ⟨q, hq⟩ : ∃ q, q = b.along a t := ⟨_, rfl⟩
    have hheight : q.y = p.y := by rw [hq, hpoint]
    have hon : turn a b q = 0 := by rw [hq, turn_along_back]
    rw [← hheight] at ha hb hc hd
    have hcross : crosses q d c = true :=
      hconvex.crosses_back length hrotated ha hb hon he
        (fun hcb => absurd hb (hcb ▸ hc).not_ge) ((straddles_iff length).mpr (.inr ⟨hd, hc⟩))
    rw [crosses_of_falling length hc hd, decide_eq_true_iff] at hcross
    have haround : polygon ~r b :: (rest ++ [a]) :=
      hrotated.trans (List.isRotated_concat a (b :: rest)).symm
    have hweak := hconvex.turn_nonneg (hasEdge_of_mem_edges haround he)
    have hside := turn_along_nonneg h0 h1 (hweak b (hrotated.mem_iff.mpr (by simp)))
      (hweak a (hrotated.mem_iff.mpr (by simp)))
    rw [← hq] at hside
    exact hside.not_gt hcross

/-- A convex polygon contains what lies strictly to the left of all its edges. -/
theorem StrictlyConvex.contains_of_left_of_all (hconvex : StrictlyConvex polygon)
    (hleft : ∀ a b, HasEdge polygon a b → 0 < turn a b p) :
    letI := Coordinate.exact length
    contains polygon p = true := by
  let _ := Coordinate.exact length
  have hsize : 2 ≤ polygon.length := (Nat.le_succ 2).trans hconvex.three
  obtain ⟨a, b, ⟨rest, hrotated⟩, ha, hb⟩ :=
    exists_falling_edge (exists_above hsize hleft) (exists_not_above hsize hleft)
  have haround : polygon ~r b :: (rest ++ [a]) :=
    hrotated.trans (List.isRotated_concat a (b :: rest)).symm
  rw [contains_of_isRotated length hrotated]
  refine contains_of_one_falling length ha hb (hleft a b ⟨rest, hrotated⟩).le fun e he h => ?_
  obtain ⟨hc, hd⟩ := hconvex.rising_back length hrotated ha hb he h
  rw [crosses_of_rising length hc hd]
  exact decide_eq_true (hleft e.1 e.2 (hasEdge_of_mem_edges haround he))

omit [IsStrictOrderedRing α] in
/-- A point strictly between two others is on their line. -/
theorem StrictlyBetween.turn_eq_zero (h : StrictlyBetween p a b) : turn a b p = 0 := by
  obtain ⟨t, -, -, rfl⟩ := h
  exact turn_along_forth a b t

/-- A point strictly between two others is strictly between their heights. -/
theorem StrictlyBetween.of_falling (h : StrictlyBetween p a b) (hfall : b.y < a.y) :
    b.y < p.y ∧ p.y < a.y := by
  obtain ⟨t, h0, h1, rfl⟩ := h
  have hshare := mul_lt_mul_of_neg_right h1 (sub_neg.mpr hfall)
  refine ⟨?_, add_lt_of_neg_right _ (mul_neg_of_pos_of_neg h0 (sub_neg.mpr hfall))⟩
  change b.y < a.y + t * (b.y - a.y)
  linarith

/-- A point strictly between two others on their height. -/
theorem StrictlyBetween.of_level (h : StrictlyBetween p a b) (hlevel : b.y = a.y)
    (hforth : a.x < b.x) : p.y = a.y ∧ a.x < p.x ∧ p.x < b.x := by
  obtain ⟨t, h0, h1, rfl⟩ := h
  have hshare := mul_lt_mul_of_pos_right h1 (sub_pos.mpr hforth)
  refine ⟨?_, lt_add_of_pos_right _ (mul_pos h0 (sub_pos.mpr hforth)), ?_⟩
  · rw [Point.along, hlevel, sub_self, mul_zero, add_zero]
  · change a.x + t * (b.x - a.x) < b.x
    linarith

/-- A convex polygon contains its edges that run downwards. -/
theorem StrictlyConvex.contains_on_falling (hconvex : StrictlyConvex polygon)
    (hedge : HasEdge polygon a b) (hfall : b.y < a.y) (hp : StrictlyBetween p a b) :
    letI := Coordinate.exact length
    contains polygon p = true := by
  let _ := Coordinate.exact length
  have hon := hp.turn_eq_zero
  obtain ⟨hb, ha⟩ := hp.of_falling hfall
  obtain ⟨rest, hrotated⟩ := hedge
  rw [contains_of_isRotated length hrotated]
  exact contains_of_one_falling length ha hb.le hon.ge fun e he h =>
    hconvex.crosses_back length hrotated ha hb.le hon he (fun _ => hb) h

/-- A convex polygon contains its edge that runs on one height to the right. All other vertices
are above, so the only edges at that height are those next to it. -/
theorem StrictlyConvex.contains_on_bottom (hconvex : StrictlyConvex polygon)
    (hedge : HasEdge polygon a b) (hlevel : b.y = a.y) (hforth : a.x < b.x)
    (hp : StrictlyBetween p a b) :
    letI := Coordinate.exact length
    contains polygon p = true := by
  let _ := Coordinate.exact length
  obtain ⟨rest, hrotated⟩ := hedge
  obtain ⟨r, others, rfl⟩ := List.exists_cons_of_ne_nil (hconvex.rest_ne_nil hrotated)
  obtain ⟨hheight, hafter, hbefore⟩ := hp.of_level hlevel hforth
  have habove : ∀ v ∈ r :: others, p.y < v.y := by
    intro v hv
    have hturn := hconvex.left a b _ hrotated v hv
    rw [turn_of_level hlevel] at hturn
    rw [hheight]
    exact sub_pos.mp (pos_of_mul_pos_right hturn (sub_pos.mpr hforth).le)
  have hbottom : crosses p b a = false := by
    refine crosses_of_not_straddles (Bool.eq_false_iff.mpr fun h => ?_)
    rcases (straddles_iff length).mp h with ⟨hb, -⟩ | ⟨-, ha⟩
    · exact hb.ne (hheight.trans hlevel.symm)
    · exact ha.ne hheight
  have hright : crosses p r b = true := by
    rw [crosses_of_leaving length (hlevel.trans hheight.symm) (habove r List.mem_cons_self)]
    exact decide_eq_true hbefore
  have hleft : crosses p a (others.getLastD r) = false := by
    have hlast : p.y < (others.getLastD r).y := habove _ List.getLastD_mem_cons
    rw [crosses_comm, crosses_of_leaving length hheight.symm hlast]
    exact decide_eq_false hafter.not_gt
  have htop : oddCrossings p r others = false := oddCrossings_of_above length habove
  rw [contains_of_isRotated length hrotated, contains_eq_around, List.cons_append,
    List.cons_append, oddCrossings, oddCrossings, oddCrossings_concat, hbottom, hright, hleft, htop]
  rfl

omit [IsStrictOrderedRing α] in
/-- Each edge of a convex polygon runs one way or the other. -/
theorem StrictlyConvex.descends_or (hconvex : StrictlyConvex polygon)
    (hedge : HasEdge polygon a b) : Descends a b ∨ Descends b a := by
  obtain ⟨rest, hrotated⟩ := hedge
  obtain ⟨v, hv⟩ := List.exists_mem_of_ne_nil rest (hconvex.rest_ne_nil hrotated)
  exact descends_or_of_turn_ne_zero (hconvex.left a b rest hrotated v hv).ne'

/-- A strictly convex lasso, its vertices read counter-clockwise, contains a point strictly to the
left of all its edges and no point strictly to the right of one. A point strictly between the ends
of an edge it contains if the edge runs downwards, or on one height to the right. Drawn clockwise
it contains the same points. -/
theorem contains_of_strictlyConvex (hconvex : StrictlyConvex polygon) (p : Point α) :
    letI := Coordinate.exact length
    ((∀ a b, HasEdge polygon a b → 0 < turn a b p) → contains polygon p = true) ∧
    (∀ a b, HasEdge polygon a b → turn a b p < 0 → contains polygon p = false) ∧
    (∀ a b, HasEdge polygon a b → StrictlyBetween p a b →
      (contains polygon p = true ↔ b.y < a.y ∨ b.y = a.y ∧ a.x < b.x) ∧
      (a.y < b.y ∨ b.y = a.y ∧ b.x < a.x → contains polygon p = false)) ∧
    contains polygon.reverse p = contains polygon p := by
  let _ := Coordinate.exact length
  refine ⟨hconvex.contains_of_left_of_all length, fun a b hedge hright => ?_,
    fun a b hedge hbetween => ?_, contains_reverse length polygon p⟩
  · exact contains_of_beyond length (hconvex.turn_nonneg hedge) hright
  · have hin : Descends a b → contains polygon p = true := by
      rintro (hfall | ⟨hlevel, hforth⟩)
      · exact hconvex.contains_on_falling length hedge hfall hbetween
      · exact hconvex.contains_on_bottom length hedge hlevel hforth hbetween
    have hout : Descends b a → contains polygon p = false := fun hruns =>
      contains_of_rising length (hconvex.turn_nonneg hedge) hruns hbetween.turn_eq_zero.le
    refine ⟨⟨fun hcontains => ?_, hin⟩, fun hruns => ?_⟩
    · refine (hconvex.descends_or hedge).resolve_right fun hruns => ?_
      exact Bool.false_ne_true ((hout hruns).symm.trans hcontains)
    · exact hout (hruns.imp_right fun h => ⟨h.1.symm, h.2⟩)

/-- A pentagon with edges of every direction. -/
theorem contains_of_pentagon :
    letI := Coordinate.exact (fun a b : ℚ => |a| + |b|)
    let pentagon : List (Point ℚ) := [⟨0, 0⟩, ⟨4, 0⟩, ⟨5, 2⟩, ⟨3, 4⟩, ⟨1, 4⟩]
    StrictlyConvex pentagon ∧ contains pentagon ⟨2, 2⟩ = true ∧ contains pentagon ⟨5, 1⟩ = false ∧
      contains pentagon ⟨2, 0⟩ = true ∧ contains pentagon ⟨2, 4⟩ = false ∧
      contains pentagon.reverse ⟨2, 0⟩ = true := by
  let _ := Coordinate.exact (fun a b : ℚ => |a| + |b|)
  intro pentagon
  have hconvex : StrictlyConvex pentagon := by decide +kernel
  have h := contains_of_strictlyConvex (fun a b : ℚ => |a| + |b|) hconvex
  have hedge {a b : Point ℚ} {others} (k : Nat) (hk : pentagon.rotate k = a :: b :: others) :
      HasEdge pentagon a b := ⟨others, k, hk⟩
  have hleft : ∀ a b others, pentagon ~r a :: b :: others → 0 < turn a b ⟨2, 2⟩ :=
    forall_reading_iff.mpr (by decide +kernel)
  have hbottom := (h ⟨2, 0⟩).2.2.1 ⟨0, 0⟩ ⟨4, 0⟩ (hedge 0 rfl)
    ⟨1 / 2, by decide +kernel, by decide +kernel, by decide +kernel⟩
  have htop := (h ⟨2, 4⟩).2.2.1 ⟨3, 4⟩ ⟨1, 4⟩ (hedge 3 rfl)
    ⟨1 / 2, by decide +kernel, by decide +kernel, by decide +kernel⟩
  have hinside : contains pentagon ⟨2, 0⟩ = true := hbottom.1.mpr (by decide +kernel)
  refine ⟨hconvex, (h ⟨2, 2⟩).1 fun a b ⟨others, hrotated⟩ => hleft a b others hrotated, ?_,
    hinside, htop.2 (by decide +kernel), (h ⟨2, 0⟩).2.2.2.trans hinside⟩
  exact (h ⟨5, 1⟩).2.1 ⟨4, 0⟩ ⟨5, 2⟩ (hedge 1 rfl) (by decide +kernel)

end Convex

end ScatterPick.Polygon
