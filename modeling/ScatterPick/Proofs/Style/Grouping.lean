import Mathlib.Data.List.Induction
import ScatterPick.Proofs.Style.Marker
import ScatterPick.Style.Groups

/-!
# Every point in its group

Points enter the groups one after the other, each at the end of the group of its key. So a group
holds the points of its key in index order, and all groups together hold every point once. The rule
that finds the key of a point agrees with the one that widens a buffer.
-/

namespace ScatterPick

namespace StyleKey

theorem mk_eq_iff {alpha size : UInt32} {k : StyleKey} :
    ⟨alpha, size⟩ = k ↔ alpha = k.alpha ∧ size = k.size := by
  cases k
  simp

theorem before_iff {a b : StyleKey} :
    a.before b = true ↔ a.alpha < b.alpha ∨ a.alpha = b.alpha ∧ a.size < b.size := by
  simp [before]

theorem before_trans {a b c : StyleKey} (h : a.before b = true) (h' : b.before c = true) :
    a.before c = true := by
  rw [before_iff] at h h' ⊢
  rcases h with hab | ⟨hab, hsab⟩ <;> rcases h' with hbc | ⟨hbc, hsbc⟩
  · exact Or.inl (UInt32.lt_trans hab hbc)
  · exact Or.inl (hbc ▸ hab)
  · exact Or.inl (hab ▸ hbc)
  · exact Or.inr ⟨hab.trans hbc, UInt32.lt_trans hsab hsbc⟩

theorem ne_of_before {a b : StyleKey} (h : a.before b = true) : a ≠ b := by
  rintro rfl
  simp [before_iff] at h

/-- Of two different keys one comes before the other. -/
theorem before_of_ne {a b : StyleKey} (hne : a ≠ b) (h : ¬ a.before b = true) :
    b.before a = true := by
  rw [before_iff, not_or, not_and] at h
  rw [before_iff]
  by_cases halpha : b.alpha < a.alpha
  · exact Or.inl halpha
  · have heq : a.alpha = b.alpha :=
      UInt32.le_antisymm (UInt32.not_lt.mp halpha) (UInt32.not_lt.mp h.1)
    have hsize : b.size ≠ a.size := fun hsize => hne (mk_eq_iff.mpr ⟨heq, hsize.symm⟩)
    exact Or.inr ⟨heq.symm, UInt32.lt_of_le_of_ne (UInt32.not_lt.mp (h.2 heq)) hsize⟩

end StyleKey

namespace StyleGroup

/-! ## One more point -/

section Adding

variable {key : StyleKey} {p : Point Float} {groups : List StyleGroup}

/-- The points in some groups, each with the key of its group. -/
def drawn (groups : List StyleGroup) : List (StyleKey × Point Float) :=
  groups.flatMap fun g => g.points.map (g.key, ·)

/-- Groups stand in ascending order of their keys. -/
def Ascending (groups : List StyleGroup) : Prop :=
  groups.Pairwise fun g h => g.key.before h.key = true

/-- One more point is drawn, and all others as before. -/
theorem drawn_addToGroup (key : StyleKey) (p : Point Float) (groups : List StyleGroup) :
    (drawn (addToGroup key p groups)).Perm ((key, p) :: drawn groups) := by
  fun_induction addToGroup key p groups with
  | case1 => exact .refl _
  | case2 g rest hkey =>
    simp only [drawn, hkey, List.flatMap_cons, List.map_append, List.append_assoc]
    exact List.perm_middle
  | case3 g rest => exact .refl _
  | case4 g rest _ _ ih =>
    simp only [drawn, List.flatMap_cons] at ih ⊢
    exact (ih.append_left _).trans List.perm_middle

/-- There are the same keys as before, and that of the point. -/
theorem exists_key_addToGroup {k : StyleKey} :
    (∃ g ∈ addToGroup key p groups, g.key = k) ↔ k = key ∨ ∃ g ∈ groups, g.key = k := by
  fun_induction addToGroup key p groups with
  | case1 => simp [eq_comm]
  | case2 g rest hkey => simp [hkey, eq_comm]
  | case3 g rest => simp [eq_comm]
  | case4 g rest _ _ ih =>
    simp only [List.mem_cons, or_and_right, exists_or, exists_eq_left, ih, or_left_comm]

theorem ascending_addToGroup (h : Ascending groups) : Ascending (addToGroup key p groups) := by
  fun_induction addToGroup key p groups with
  | case1 => simp [Ascending]
  | case2 g rest hkey => exact List.pairwise_cons.mpr (List.pairwise_cons.mp h)
  | case3 g rest hne hbefore =>
    have hrest := List.pairwise_cons.mp h
    refine List.pairwise_cons.mpr ⟨fun g' hg' => ?_, h⟩
    rcases List.mem_cons.mp hg' with rfl | hmem
    · exact hbefore
    · exact StyleKey.before_trans hbefore (hrest.1 g' hmem)
  | case4 g rest hne hbefore ih =>
    have hrest := List.pairwise_cons.mp h
    refine List.pairwise_cons.mpr ⟨fun g' hg' => ?_, ih hrest.2⟩
    rcases exists_key_addToGroup.mp ⟨g', hg', rfl⟩ with hkey | ⟨old, hold, hkey⟩
    · rw [hkey]
      exact StyleKey.before_of_ne hne hbefore
    · rw [← hkey]
      exact hrest.1 old hold

/-- A group after one more point is one from before with another key, or the group of this key with
the point at its end. -/
theorem mem_addToGroup (h : Ascending groups) {g : StyleGroup}
    (hg : g ∈ addToGroup key p groups) :
    (g ∈ groups ∧ g.key ≠ key) ∨ (∃ old ∈ groups, old.key = key ∧ g = ⟨key, old.points ++ [p]⟩) ∨
      (g = ⟨key, [p]⟩ ∧ ∀ old ∈ groups, old.key ≠ key) := by
  fun_induction addToGroup key p groups with
  | case1 => exact Or.inr (Or.inr ⟨List.mem_singleton.mp hg, nofun⟩)
  | case2 first rest hkey =>
    subst hkey
    rcases List.mem_cons.mp hg with rfl | hrest
    · exact Or.inr (Or.inl ⟨first, List.mem_cons_self, rfl, rfl⟩)
    · have hbefore := (List.pairwise_cons.mp h).1 g hrest
      exact Or.inl ⟨List.mem_cons_of_mem _ hrest, (StyleKey.ne_of_before hbefore).symm⟩
  | case3 first rest hne hbefore =>
    have hlater : ∀ old ∈ first :: rest, key.before old.key = true := by
      intro old hold
      rcases List.mem_cons.mp hold with rfl | hold
      · exact hbefore
      · exact StyleKey.before_trans hbefore ((List.pairwise_cons.mp h).1 old hold)
    have hother : ∀ old ∈ first :: rest, old.key ≠ key := fun old hold =>
      (StyleKey.ne_of_before (hlater old hold)).symm
    rcases List.mem_cons.mp hg with rfl | hold
    · exact Or.inr (Or.inr ⟨rfl, hother⟩)
    · exact Or.inl ⟨hold, hother g hold⟩
  | case4 first rest hne hbefore ih =>
    rcases List.mem_cons.mp hg with rfl | hrest
    · exact Or.inl ⟨List.mem_cons_self, Ne.symm hne⟩
    · rcases ih (List.pairwise_cons.mp h).2 hrest with ⟨hold, hkey⟩ | ⟨old, hold, hkey⟩ | ⟨hg, hno⟩
      · exact Or.inl ⟨List.mem_cons_of_mem _ hold, hkey⟩
      · exact Or.inr (Or.inl ⟨old, List.mem_cons_of_mem _ hold, hkey⟩)
      · exact Or.inr (Or.inr ⟨hg, List.forall_mem_cons.mpr ⟨Ne.symm hne, hno⟩⟩)

end Adding

/-! ## All points -/

/-- The points with a given key, in their order. -/
def pointsOf (key : StyleKey) (keyed : List (StyleKey × Point Float)) : List (Point Float) :=
  (keyed.filter fun q => q.1 = key).map (·.2)

theorem pointsOf_concat_self (key : StyleKey) (keyed : List (StyleKey × Point Float))
    (p : Point Float) : pointsOf key (keyed ++ [(key, p)]) = pointsOf key keyed ++ [p] := by
  simp [pointsOf]

theorem pointsOf_concat_of_ne {key other : StyleKey} (h : key ≠ other)
    (keyed : List (StyleKey × Point Float)) (p : Point Float) :
    pointsOf other (keyed ++ [(key, p)]) = pointsOf other keyed := by
  simp [pointsOf, h]

theorem pointsOf_eq_nil {key : StyleKey} {keyed : List (StyleKey × Point Float)}
    (h : ∀ q ∈ keyed, q.1 ≠ key) : pointsOf key keyed = [] := by
  rw [pointsOf, List.filter_eq_nil_iff.mpr fun q hq => by simpa using h q hq]
  rfl

/-- Groups divide points among themselves by their keys. -/
structure Partitions (keyed : List (StyleKey × Point Float)) (groups : List StyleGroup) : Prop where
  ascending : Ascending groups
  nonempty : ∀ g ∈ groups, g.points ≠ []
  points : ∀ g ∈ groups, g.points = pointsOf g.key keyed
  drawn : (drawn groups).Perm keyed

namespace Partitions

variable {keyed : List (StyleKey × Point Float)} {groups : List StyleGroup}

/-- The keys of the groups are those of the points. -/
theorem exists_key (h : Partitions keyed groups) {key : StyleKey} :
    (∃ g ∈ groups, g.key = key) ↔ ∃ q ∈ keyed, q.1 = key := by
  constructor
  · rintro ⟨g, hg, rfl⟩
    obtain ⟨p, hp⟩ := List.exists_mem_of_ne_nil _ (h.nonempty g hg)
    have hdrawn : (g.key, p) ∈ StyleGroup.drawn groups :=
      List.mem_flatMap.mpr ⟨g, hg, List.mem_map_of_mem hp⟩
    exact ⟨_, h.drawn.mem_iff.mp hdrawn, rfl⟩
  · rintro ⟨q, hq, rfl⟩
    obtain ⟨g, hg, hmem⟩ := List.mem_flatMap.mp (h.drawn.mem_iff.mpr hq)
    obtain ⟨p, -, rfl⟩ := List.mem_map.mp hmem
    exact ⟨g, hg, rfl⟩

/-- Groups that divide some points divide one more after it was added. -/
theorem add (h : Partitions keyed groups) (key : StyleKey) (p : Point Float) :
    Partitions (keyed ++ [(key, p)]) (addToGroup key p groups) := by
  refine ⟨ascending_addToGroup h.ascending, fun g hg => ?_, fun g hg => ?_, ?_⟩
  · rcases mem_addToGroup h.ascending hg with ⟨hold, -⟩ | ⟨old, -, -, rfl⟩ | ⟨rfl, -⟩
    · exact h.nonempty g hold
    · simp
    · simp
  · rcases mem_addToGroup h.ascending hg with ⟨hold, hkey⟩ | ⟨old, hold, rfl, rfl⟩ | ⟨rfl, hno⟩
    · rw [pointsOf_concat_of_ne (Ne.symm hkey), h.points g hold]
    · rw [pointsOf_concat_self, h.points old hold]
    · have hnone : pointsOf key keyed = [] := pointsOf_eq_nil fun q hq hkey => by
        obtain ⟨old, hold, holdkey⟩ := h.exists_key.mpr ⟨q, hq, hkey⟩
        exact hno old hold holdkey
      rw [pointsOf_concat_self, hnone, List.nil_append]
  · exact ((drawn_addToGroup key p groups).trans (h.drawn.cons _)).trans
      (List.perm_append_singleton _ _).symm

/-- Adding points one after the other divides them. -/
theorem foldl (keyed : List (StyleKey × Point Float)) :
    Partitions keyed (keyed.foldl (fun groups q => addToGroup q.1 q.2 groups) []) := by
  induction keyed using List.reverseRecOn with
  | nil => exact ⟨.nil, nofun, nofun, .refl _⟩
  | append_singleton keyed q ih =>
    rw [List.foldl_append]
    exact ih.add q.1 q.2

end Partitions

end StyleGroup

/-- The groups of some points divide them by the keys that the style gives them. -/
theorem partitions_groupByStyle (points : List (Point Float)) (style : CanvasStyle)
    (radius : Float32) :
    StyleGroup.Partitions (points.zipIdx.map fun p => (style.keyAt radius p.2, p.1))
      (groupByStyle points style radius) := by
  have h := StyleGroup.Partitions.foldl (points.zipIdx.map fun p => (style.keyAt radius p.2, p.1))
  rwa [List.foldl_map] at h

/-! ## The style of a point -/

/-- An entry stands for itself, and the first one for what is missing. -/
theorem entryOr_eq (entries : List StyleEntry) (i : Nat) (fallback : StyleEntry) :
    entryOr entries i fallback = (entries[i]?.or entries.head?).getD fallback := by
  rw [entryOr]
  cases entries[i]? with
  | none => rfl
  | some entry => rfl

/-- Entries that are widened by their first one stand for the same as before. -/
theorem entryOr_widen {entries : List StyleEntry} (h : entries ≠ []) (count i : Nat)
    (filler fallback : StyleEntry) :
    entryOr (MarkerStyles.widen entries count filler) i fallback = entryOr entries i fallback := by
  obtain ⟨first, rest, rfl⟩ := List.exists_cons_of_ne_nil h
  have hhead : (MarkerStyles.widen (first :: rest) count filler).head? = some first := rfl
  rw [entryOr, entryOr, hhead, List.head?_cons, MarkerStyles.widen, List.getElem?_append]
  split
  · rfl
  · rename_i hlong
    rw [List.getElem?_eq_none (Nat.not_lt.mp hlong), List.head?_cons, List.getElem?_replicate]
    split
    · rfl
    · rfl

/-- Groups depend on the entries through what they stand for. -/
theorem groupByStyle_congr {style other : CanvasStyle} {radius : Float32}
    (halphas : ∀ i, entryOr style.alphas i 1.0 = entryOr other.alphas i 1.0)
    (hsizes : ∀ i, entryOr style.sizes i (.ofSingle (radius * radius)) =
      entryOr other.sizes i (.ofSingle (radius * radius))) (points : List (Point Float)) :
    groupByStyle points style radius = groupByStyle points other radius := by
  have hkey : style.keyAt radius = other.keyAt radius := by
    funext i
    rw [CanvasStyle.keyAt, CanvasStyle.keyAt, halphas, hsizes]
  rw [groupByStyle, groupByStyle, hkey]

/-- The groups stand in strictly ascending order of the bits of opacity and size. There is a group
for each style that a point has, and it consists of the points of this style in index order. So all
groups together draw every point once with its own style. Widening entries that are there by their
first one leaves the groups as they are. -/
theorem groupByStyle_partitions_points (points : List (Point Float)) (style : CanvasStyle)
    (radius : Float32) :
    let groups := groupByStyle points style radius
    let alpha (i : Nat) : StyleEntry := (style.alphas[i]?.or style.alphas.head?).getD 1.0
    let size (i : Nat) : StyleEntry :=
      (style.sizes[i]?.or style.sizes.head?).getD (.ofSingle (radius * radius))
    (groups.Pairwise fun g h => g.key.alpha < h.key.alpha ∨
        g.key.alpha = h.key.alpha ∧ g.key.size < h.key.size) ∧
      (∀ key, (∃ g ∈ groups, g.key = key) ↔
        ∃ i < points.length, (alpha i).bits = key.alpha ∧ (size i).bits = key.size) ∧
      (∀ g ∈ groups, g.points ≠ [] ∧
        g.points = (points.zipIdx.filter fun p =>
          (alpha p.2).bits = g.key.alpha ∧ (size p.2).bits = g.key.size).map (·.1)) ∧
      (groups.flatMap fun g => g.points.map fun p => (p, g.alpha, g.size)).Perm
        (points.zipIdx.map fun p => (p.1, alpha p.2, size p.2)) ∧
      (style.alphas ≠ [] → style.sizes ≠ [] → ∀ fillAlpha fillSize,
        let alphas := MarkerStyles.widen style.alphas points.length fillAlpha
        let sizes := MarkerStyles.widen style.sizes points.length fillSize
        groupByStyle points ⟨alphas, style.sizes⟩ radius = groups ∧
          groupByStyle points ⟨style.alphas, sizes⟩ radius = groups ∧
          groupByStyle points ⟨alphas, sizes⟩ radius = groups) := by
  intro groups alpha size
  have h := partitions_groupByStyle points style radius
  have hkey (i : Nat) : style.keyAt radius i = ⟨(alpha i).bits, (size i).bits⟩ := by
    rw [CanvasStyle.keyAt, entryOr_eq, entryOr_eq]
  simp only [hkey] at h
  refine ⟨h.ascending.imp fun hbefore => StyleKey.before_iff.mp hbefore, fun key => ?_,
    fun g hg => ⟨h.nonempty g hg, ?_⟩, ?_, fun halphas hsizes fillAlpha fillSize => ?_⟩
  · rw [h.exists_key]
    constructor
    · rintro ⟨q, hq, rfl⟩
      obtain ⟨p, hp, rfl⟩ := List.mem_map.mp hq
      exact ⟨p.2, List.snd_lt_of_mem_zipIdx hp, rfl, rfl⟩
    · rintro ⟨i, hi, halpha, hsize⟩
      have hmem : (points[i], i) ∈ points.zipIdx :=
        List.mem_zipIdx_iff_getElem?.mpr (List.getElem?_eq_getElem hi)
      exact ⟨_, List.mem_map_of_mem hmem, by rw [halpha, hsize]⟩
  · rw [h.points g hg, StyleGroup.pointsOf, List.filter_map, List.map_map]
    simp only [Function.comp_def, StyleKey.mk_eq_iff]
  · have hdrawn := h.drawn.map fun q =>
      (q.2, (⟨q.1.alpha⟩ : StyleEntry), (⟨q.1.size⟩ : StyleEntry))
    simp only [StyleGroup.drawn, List.map_flatMap, List.map_map, Function.comp_def] at hdrawn
    exact hdrawn
  · refine ⟨groupByStyle_congr ?_ ?_ points, groupByStyle_congr ?_ ?_ points,
      groupByStyle_congr ?_ ?_ points⟩
    all_goals intro i
    · exact entryOr_widen halphas ..
    · rfl
    · rfl
    · exact entryOr_widen hsizes ..
    · exact entryOr_widen halphas ..
    · exact entryOr_widen hsizes ..

/-- Zeros of either sign make two groups, and so do undefined opacities of two patterns. -/
theorem groups_of_zeros_and_undefined :
    let points : List (Point Float) := [⟨0.0, 1.0⟩, ⟨2.0, 3.0⟩, ⟨4.0, 5.0⟩, ⟨6.0, 7.0⟩, ⟨8.0, 9.0⟩]
    let minusZero : StyleEntry := ⟨0x80000000⟩
    let style : CanvasStyle := ⟨[0.0, minusZero, ⟨0x7FC00000⟩, ⟨0xFFC00000⟩], [⟨0x7FC00001⟩]⟩
    let groups := groupByStyle points style 3.0
    let alphas := MarkerStyles.widen style.alphas points.length 1.0
    let sizes := MarkerStyles.widen style.sizes points.length fallbackSize
    style.alphas ≠ [] ∧ style.sizes ≠ [] ∧
      alphas = [0.0, minusZero, ⟨0x7FC00000⟩, ⟨0xFFC00000⟩, 0.0] ∧
      groups.map (fun g => (g.alpha, g.points)) =
        [(0.0, [⟨0.0, 1.0⟩, ⟨8.0, 9.0⟩]), (⟨0x7FC00000⟩, [⟨4.0, 5.0⟩]), (minusZero, [⟨2.0, 3.0⟩]),
          (⟨0xFFC00000⟩, [⟨6.0, 7.0⟩])] ∧
      groupByStyle points ⟨alphas, sizes⟩ 3.0 = groups := by
  intro points minusZero style groups alphas sizes
  have halphas : style.alphas ≠ [] := by simp [style]
  have hsizes : style.sizes ≠ [] := by simp [style]
  obtain ⟨-, -, -, -, hwidened⟩ := groupByStyle_partitions_points points style 3.0
  refine ⟨halphas, hsizes, by decide +kernel, by decide +kernel, ?_⟩
  exact (hwidened halphas hsizes 1.0 fallbackSize).2.2

end ScatterPick
