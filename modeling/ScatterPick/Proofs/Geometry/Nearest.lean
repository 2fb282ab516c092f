import Mathlib.Data.List.Forall2
import ScatterPick.Proofs.Geometry.Hits
import ScatterPick.Proofs.Number.Order

/-!
# The nearest point is the first minimum

The scan for the nearest point finds the least of the distances that are finite, and the first one
if several are equally small. Points out of reach take no part in it: they only shift the place at
which the nearest point is found. All this is so whatever the length of a vector is taken to be, so
it does not depend on how a library rounds it.
-/

namespace ScatterPick

open Coordinate

/-! ## Points out of reach -/

section Reach

variable {α : Type} [Coordinate α]

/-- Whether a point lies at a finite distance from the target. -/
def Point.inReach (target p : Point α) : Bool := isFinite (p.distance target)

/-- How many of the points before a place are in reach. -/
def Point.reachedBefore (target : Point α) (points : List (Point α)) (i : Nat) : Nat :=
  (points.take i).countP target.inReach

/-- A distance is compared with the best so far whatever the places are called. -/
theorem closer_renumber (f : Nat → Nat) (best : Option (Nat × α)) (index : Nat) (d : α) :
    (closer best index d).map (Prod.map f id) = closer (best.map (Prod.map f id)) (f index) d := by
  cases h : isFinite d with
  | false => rw [closer_of_not_finite h, closer_of_not_finite h]
  | true =>
    cases best with
    | none =>
      rw [closer_none h, Option.map_none, closer_none h]
      rfl
    | some found =>
      rw [closer_some h, Option.map_some, Prod.map, closer_some h, apply_ite (Option.map _)]
      rfl

/-- A scan leaves out the distances that are not finite; `f` numbers the others anew. -/
theorem firstLeast_filter (f : Nat → Nat) (best : Option (Nat × α)) (start next : Nat)
    (distances : List α)
    (hf : ∀ k < distances.length, f (start + k) = next + (distances.take k).countP isFinite) :
    (firstLeast best start distances).map (Prod.map f id) =
      firstLeast (best.map (Prod.map f id)) next (distances.filter isFinite) := by
  -- `start` counts all distances that were passed and `next` the finite ones among them.
  induction distances generalizing best start next with
  | nil => rfl
  | cons d ds ih =>
    have hstart : f start = next := hf 0 (Nat.succ_pos _)
    have hrest (k : Nat) (hk : k < ds.length) :
        f (start + 1 + k) = next + ((d :: ds).take (k + 1)).countP isFinite := by
      rw [Nat.add_assoc, Nat.add_comm 1 k]
      exact hf (k + 1) (Nat.succ_lt_succ hk)
    simp only [List.take_succ_cons, List.countP_cons] at hrest
    rw [firstLeast]
    cases hd : isFinite d with
    | true =>
      simp only [hd, if_true] at hrest
      rw [List.filter_cons_of_pos hd, firstLeast, ← hstart, ← closer_renumber]
      exact ih _ _ _ fun k hk => by rw [hrest k hk, hstart]; omega
    | false =>
      simp only [hd, Bool.false_eq_true, if_false, Nat.add_zero] at hrest
      rw [List.filter_cons_of_neg (by rw [hd]; exact Bool.false_ne_true), closer_of_not_finite hd]
      exact ih _ _ _ hrest

/-- The nearest point is the nearest one of those in reach. -/
theorem nearest_filter (points : List (Point α)) (target : Point α) :
    (nearest points target).map (Prod.map (target.reachedBefore points) id) =
      nearest (points.filter target.inReach) target := by
  have hfilter : (points.filter target.inReach).map (·.distance target) =
      (points.map (·.distance target)).filter isFinite := List.filter_map.symm
  rw [nearest, nearest, hfilter]
  refine firstLeast_filter _ none 0 0 _ fun k _ => ?_
  rw [Point.reachedBefore, Nat.zero_add, Nat.zero_add, ← List.map_take, List.countP_map]
  rfl

/-- Two distances that are the same or both not finite. -/
def SameIfFinite (d e : α) : Prop := d = e ∨ isFinite d = false ∧ isFinite e = false

/-- A scan does not see what a distance is that is not finite. -/
theorem firstLeast_congr {distances others : List α} (h : List.Forall₂ SameIfFinite distances others)
    (best : Option (Nat × α)) (start : Nat) :
    firstLeast best start distances = firstLeast best start others := by
  induction h generalizing best start with
  | nil => rfl
  | @cons d e ds es hde _ ih =>
    have hcloser : closer best start d = closer best start e := by
      rcases hde with rfl | ⟨hd, he⟩
      · rfl
      · rw [closer_of_not_finite hd, closer_of_not_finite he]
    rw [firstLeast, firstLeast, hcloser, ih]

end Reach

/-! ## The first minimum -/

/-- A finite distance that no other finite one is below, and the first one of this kind. -/
structure IsFirstLeast (distances : List Float) (i : Nat) (d : Float) : Prop where
  here : distances[i]? = some d
  finite : d.isFinite = true
  least : ∀ (k : Nat) (e : Float), distances[k]? = some e → e.isFinite = true → d ≤ e
  first : ∀ (k : Nat) (e : Float), k < i → distances[k]? = some e → e.isFinite = true → d < e

/-- There is one first minimum at most. -/
theorem IsFirstLeast.unique {distances : List Float} {i j : Nat} {d e : Float}
    (hi : IsFirstLeast distances i d) (hj : IsFirstLeast distances j e) : i = j ∧ d = e := by
  -- The one that came later would be below itself.
  have hle {i j : Nat} {d e : Float} (hi : IsFirstLeast distances i d)
      (hj : IsFirstLeast distances j e) : i ≤ j := by
    refine Nat.le_of_not_lt fun hlt => Number.double_lt_irrefl d ?_
    exact Number.double_lt_of_lt_of_le (hi.first j e hlt hj.here hj.finite)
      (hj.least i d hi.here hi.finite)
  obtain rfl := Nat.le_antisymm (hle hi hj) (hle hj hi)
  exact ⟨rfl, Option.some.inj (hi.here.symm.trans hj.here)⟩

/-- What a scan may have found in the distances that it passed. -/
def FoundLeast (passed : List Float) : Option (Nat × Float) → Prop
  | none => ∀ e ∈ passed, e.isFinite = false
  | some (i, d) => IsFirstLeast passed i d

/-- Before any distance nothing is found. -/
theorem foundLeast_nil : FoundLeast [] none := fun _ he => absurd he List.not_mem_nil

theorem getElem?_concat_eq_some {passed : List Float} {d e : Float} {k : Nat}
    (h : (passed ++ [d])[k]? = some e) : passed[k]? = some e ∨ k = passed.length ∧ e = d := by
  rcases Nat.lt_trichotomy k passed.length with hlt | rfl | hgt
  · exact Or.inl (by rwa [List.getElem?_append_left hlt] at h)
  · rw [List.getElem?_concat_length, Option.some.injEq] at h
    exact Or.inr ⟨rfl, h.symm⟩
  · rw [List.getElem?_eq_none (by simp; omega)] at h
    cases h

/-- A distance below all finite ones that were passed is the new minimum. -/
theorem isFirstLeast_concat {passed : List Float} {d : Float} (hd : d.isFinite = true)
    (hbelow : ∀ e ∈ passed, e.isFinite = true → d < e) :
    IsFirstLeast (passed ++ [d]) passed.length d where
  here := List.getElem?_concat_length
  finite := hd
  least k e hk he := by
    rcases getElem?_concat_eq_some hk with hold | ⟨_, rfl⟩
    · exact Number.double_le_of_lt (hbelow e (List.mem_of_getElem? hold) he)
    · exact Number.double_le_refl (Number.isNaN_of_isFinite hd)
  first k e hlt hk he := by
    rw [List.getElem?_append_left hlt] at hk
    exact hbelow e (List.mem_of_getElem? hk) he

/-- A distance that is not finite or not below the minimum leaves it where it is. -/
theorem IsFirstLeast.concat {passed : List Float} {i : Nat} {b d : Float}
    (h : IsFirstLeast passed i b) (hd : d.isFinite = true → b ≤ d) :
    IsFirstLeast (passed ++ [d]) i b where
  here := List.getElem?_append_left (List.getElem?_eq_some_iff.mp h.here).1 ▸ h.here
  finite := h.finite
  least k e hk he := by
    rcases getElem?_concat_eq_some hk with hold | ⟨_, rfl⟩
    · exact h.least k e hold he
    · exact hd he
  first k e hki hk he := by
    have hi := (List.getElem?_eq_some_iff.mp h.here).1
    rw [List.getElem?_append_left (hki.trans hi)] at hk
    exact h.first k e hki hk he

/-- A distance that is not finite changes nothing about what was found. -/
theorem FoundLeast.skip {passed : List Float} {best : Option (Nat × Float)} {d : Float}
    (h : FoundLeast passed best) (hd : d.isFinite = false) : FoundLeast (passed ++ [d]) best := by
  cases best with
  | none =>
    intro e he
    rcases List.mem_append.mp he with hold | hnew
    · exact h e hold
    · rwa [List.mem_singleton.mp hnew]
  | some found =>
    refine IsFirstLeast.concat h fun hfinite => ?_
    rw [hd] at hfinite
    cases hfinite

section Length

variable (length : Float → Float → Float)

/-- What is found after one more distance. -/
theorem FoundLeast.closer {passed : List Float} {best : Option (Nat × Float)}
    (h : FoundLeast passed best) (d : Float) :
    letI := Coordinate.doubles length
    FoundLeast (passed ++ [d]) (closer best passed.length d) := by
  let _ := Coordinate.doubles length
  cases hd : d.isFinite with
  | false =>
    rw [closer_of_not_finite hd]
    exact h.skip hd
  | true =>
    cases best with
    | none =>
      rw [closer_none hd]
      refine isFirstLeast_concat hd fun e he hfinite => ?_
      rw [h e he] at hfinite
      cases hfinite
    | some found =>
      obtain ⟨i, b⟩ := found
      rw [closer_some hd]
      split
      · rename_i hless
        refine isFirstLeast_concat hd fun e he hfinite => ?_
        obtain ⟨k, hk⟩ := List.getElem?_of_mem he
        exact Number.double_lt_of_lt_of_le (of_decide_eq_true hless) (h.least k e hk hfinite)
      · rename_i hless
        have hnumber := Number.isNaN_of_isFinite hd
        refine h.concat fun _ => ?_
        apply (Number.double_not_lt hnumber (Number.isNaN_of_isFinite h.finite)).mp
        exact fun hlt => hless (decide_eq_true hlt)

/-- What is found after all distances. -/
theorem FoundLeast.firstLeast {passed : List Float} {best : Option (Nat × Float)}
    (h : FoundLeast passed best) (distances : List Float) :
    letI := Coordinate.doubles length
    FoundLeast (passed ++ distances) (firstLeast best passed.length distances) := by
  let _ := Coordinate.doubles length
  -- The distances move over to those that were passed, one at a time.
  induction distances generalizing passed best with
  | nil => rwa [List.append_nil]
  | cons d ds ih =>
    have hnext := ih (h.closer length d)
    rw [List.append_assoc, List.singleton_append, List.length_append, List.length_singleton]
      at hnext
    exact hnext

/-- What the scan for the nearest point finds. -/
theorem foundLeast_nearest (points : List (Point Float)) (target : Point Float) :
    letI := Coordinate.doubles length
    FoundLeast (points.map (·.distance target)) (nearest points target) :=
  foundLeast_nil.firstLeast length _

/-- No point is nearest exactly if none is in reach. -/
theorem nearest_eq_none_iff {points : List (Point Float)} {target : Point Float} :
    letI := Coordinate.doubles length
    nearest points target = none ↔ ∀ p ∈ points, target.inReach p = false := by
  let _ := Coordinate.doubles length
  have hfound := foundLeast_nearest length points target
  cases h : nearest points target with
  | none =>
    rw [h] at hfound
    exact iff_of_true rfl fun p hp => hfound _ (List.mem_map_of_mem hp)
  | some found =>
    rw [h] at hfound
    refine iff_of_false nofun fun hnone => ?_
    obtain ⟨p, hp, hd⟩ := List.mem_map.mp (List.mem_of_getElem? hfound.here)
    have hreach : target.inReach p = true := by rw [Point.inReach, hd]; exact hfound.finite
    rw [hnone p hp] at hreach
    cases hreach

/-- The nearest point is the first minimum of the distances. -/
theorem nearest_eq_some_iff {points : List (Point Float)} {target : Point Float} {i : Nat}
    {d : Float} :
    letI := Coordinate.doubles length
    nearest points target = some (i, d) ↔ IsFirstLeast (points.map (·.distance target)) i d := by
  let _ := Coordinate.doubles length
  have hfound := foundLeast_nearest length points target
  constructor
  · intro h
    rwa [h] at hfound
  · intro hleast
    cases h : nearest points target with
    | none =>
      rw [h] at hfound
      have hfinite := hfound d (List.mem_of_getElem? hleast.here)
      rw [hleast.finite] at hfinite
      cases hfinite
    | some found =>
      rw [h] at hfound
      obtain ⟨hi, hd⟩ := IsFirstLeast.unique hleast hfound
      rw [hi, hd]

/-- The nearest point is the first of those at the least finite distance, and there is none if no
distance is finite. Points out of reach may be added, left out or moved: the same one of the points
in reach stays the nearest, at the same distance, and at the same place if they only moved. The
length of a vector may be any function of its components. -/
theorem nearest_is_first_least (points : List (Point Float)) (target : Point Float) :
    letI := Coordinate.doubles length
    (nearest points target = none ↔ ∀ p ∈ points, target.inReach p = false) ∧
    (∀ i d, nearest points target = some (i, d) ↔
      IsFirstLeast (points.map (·.distance target)) i d) ∧
    (∀ others : List (Point Float),
      others.filter target.inReach = points.filter target.inReach →
        (nearest others target).map (Prod.map (target.reachedBefore others) id) =
          (nearest points target).map (Prod.map (target.reachedBefore points) id)) ∧
    ∀ others : List (Point Float),
      List.Forall₂ SameIfFinite (others.map (·.distance target)) (points.map (·.distance target)) →
        nearest others target = nearest points target := by
  let _ := Coordinate.doubles length
  refine ⟨nearest_eq_none_iff length, fun i d => nearest_eq_some_iff length, ?_, ?_⟩
  · intro others hsame
    rw [nearest_filter, nearest_filter, hsame]
  · intro others hsame
    exact firstLeast_congr hsame none 0

end Length

/-- Two points at distance one, between others that are nowhere or infinitely far away: the first of
the two is nearest, also after the others are left out or moved. -/
theorem nearest_between_unreachable :
    let nowhere : Point Float := ⟨0.0 / 0.0, 1.0⟩
    let far : Point Float := ⟨1.0 / 0.0, 0.0⟩
    let target : Point Float := ⟨0.0, 0.0⟩
    let points : List (Point Float) := [nowhere, ⟨3.0, 4.0⟩, far, ⟨0.0, -1.0⟩, ⟨1.0, 0.0⟩]
    nearest points target = some (3, 1.0) ∧
      IsFirstLeast (points.map (·.distance target)) 3 1.0 ∧
      (nearest [far, nowhere] target = none ∧
        ∀ p ∈ [far, nowhere], target.inReach p = false) ∧
      (nearest [⟨3.0, 4.0⟩, ⟨0.0, -1.0⟩, ⟨1.0, 0.0⟩] target).map
          (Prod.map (target.reachedBefore [⟨3.0, 4.0⟩, ⟨0.0, -1.0⟩, ⟨1.0, 0.0⟩]) id) =
        some (1, 1.0) ∧
      nearest [far, ⟨3.0, 4.0⟩, nowhere, ⟨0.0, -1.0⟩, ⟨1.0, 0.0⟩] target = some (3, 1.0) := by
  intro nowhere far target points
  have hpoints : nearest points target = some (3, 1.0) := by decide +kernel
  obtain ⟨-, hsome, hleft, hmoved⟩ := nearest_is_first_least Number.hypot points target
  have hnone := (nearest_is_first_least Number.hypot [far, nowhere] target).1
  have hreach : ∀ p ∈ [far, nowhere], target.inReach p = false := by decide +kernel
  refine ⟨hpoints, (hsome 3 1.0).mp hpoints, ⟨hnone.mpr hreach, hreach⟩, ?_, ?_⟩
  · rw [hleft _ (by decide +kernel), hpoints]
    decide +kernel
  · refine (hmoved _ ?_).trans hpoints
    have hfar : SameIfFinite (far.distance target) (nowhere.distance target) :=
      Or.inr (by decide +kernel)
    have hnowhere : SameIfFinite (nowhere.distance target) (far.distance target) :=
      Or.inr (by decide +kernel)
    exact .cons hfar (.cons (Or.inl rfl) (.cons hnowhere (.cons (Or.inl rfl)
      (.cons (Or.inl rfl) .nil))))

end ScatterPick
